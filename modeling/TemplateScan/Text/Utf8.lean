/-!
# UTF-8

Texts as bytes.  Every text has one encoding (`encode`).  Reading bytes takes one well-formed
character after the other; where none stands, the longest start of a well-formed character, or else
one byte, is ill-formed.  `decode?` refuses ill-formed bytes and `decodeLossy` puts U+FFFD for each
such piece.

* `takeChar_length_le`: a read takes at least one byte, so both readers end.
* `decode?_encode`, `decodeLossy_encode`: both readers give a text back from its bytes.
-/

namespace TemplateScan.Text.Utf8

/-! ## Writing -/

/-- The bytes of one character: seven bits fit in one byte, eleven in two, sixteen in three, all in
four. -/
def encodeChar (c : Char) : List UInt8 :=
  let n := c.toNat
  if n < 0x80 then
    [.ofNat n]
  else if n < 0x800 then
    [.ofNat (0xC0 + n / 0x40), .ofNat (0x80 + n % 0x40)]
  else if n < 0x10000 then
    [.ofNat (0xE0 + n / 0x1000), .ofNat (0x80 + n / 0x40 % 0x40), .ofNat (0x80 + n % 0x40)]
  else
    [.ofNat (0xF0 + n / 0x40000), .ofNat (0x80 + n / 0x1000 % 0x40),
      .ofNat (0x80 + n / 0x40 % 0x40), .ofNat (0x80 + n % 0x40)]

/-- The bytes of a text. -/
def encode (cs : List Char) : List UInt8 :=
  cs.flatMap encodeChar

/-- The number of bytes of a text. -/
def byteLength (cs : List Char) : Nat :=
  cs.foldr (fun c bytes => c.utf8Size + bytes) 0

@[simp] theorem byteLength_nil : byteLength [] = 0 := rfl

@[simp] theorem byteLength_cons (c : Char) (cs : List Char) :
    byteLength (c :: cs) = c.utf8Size + byteLength cs := rfl

@[simp] theorem byteLength_append (as bs : List Char) :
    byteLength (as ++ bs) = byteLength as + byteLength bs := by
  induction as with
  | nil => simp
  | cons c as ih => simp [ih, Nat.add_assoc]

theorem length_encodeChar (c : Char) : (encodeChar c).length = c.utf8Size := by
  have : c.toNat = c.val.toNat := rfl
  unfold encodeChar Char.utf8Size
  simp only [UInt32.le_iff_toNat_le, UInt32.toNat_ofNatLT]
  repeat' split
  all_goals first | rfl | omega

/-- A text has as many bytes as its encoding. -/
theorem length_encode (cs : List Char) : (encode cs).length = byteLength cs := by
  induction cs with
  | nil => rfl
  | cons c cs ih => simp_all [encode, length_encodeChar]

/-! ## Reading -/

/-- Whether a byte can follow the first one of a character. -/
def isContinuation (b : UInt8) : Bool :=
  0x80 ≤ b.toNat && b.toNat < 0xC0

/-- The six bits that a continuation byte carries. -/
def payload (b : UInt8) : Nat :=
  b.toNat - 0x80

/-- Whether a byte may follow the first byte of a character of three or four bytes.  Others would
write a character with too many bytes, a surrogate or a number above U+10FFFF. -/
def isSecond (first b : UInt8) : Bool :=
  isContinuation b && (first.toNat != 0xE0 || 0xA0 ≤ b.toNat) &&
    (first.toNat != 0xED || b.toNat < 0xA0) &&
    (first.toNat != 0xF0 || 0x90 ≤ b.toNat) && (first.toNat != 0xF4 || b.toNat < 0x90)

/-- One character, or `none` for one ill-formed piece, read off the bytes `first :: later`, and the
bytes after it. -/
def takeChar (first : UInt8) (later : List UInt8) : Option Char × List UInt8 :=
  if first.toNat < 0x80 then
    (some (Char.ofNat first.toNat), later)
  else if first.toNat < 0xC2 then
    (none, later)
  else if first.toNat < 0xE0 then
    match later with
    | b :: rest =>
      if isContinuation b then (some (Char.ofNat ((first.toNat - 0xC0) * 0x40 + payload b)), rest)
      else (none, later)
    | [] => (none, [])
  else if first.toNat < 0xF0 then
    match later with
    | b :: rest =>
      if isSecond first b then
        match rest with
        | b' :: rest' =>
          if isContinuation b' then
            (some (Char.ofNat
              ((first.toNat - 0xE0) * 0x1000 + payload b * 0x40 + payload b')), rest')
          else (none, rest)
        | [] => (none, [])
      else (none, later)
    | [] => (none, [])
  else if first.toNat < 0xF5 then
    match later with
    | b :: rest =>
      if isSecond first b then
        match rest with
        | b' :: rest' =>
          if isContinuation b' then
            match rest' with
            | b'' :: rest'' =>
              if isContinuation b'' then
                (some (Char.ofNat
                  ((first.toNat - 0xF0) * 0x40000 + payload b * 0x1000 + payload b' * 0x40 +
                    payload b'')), rest'')
              else (none, rest')
            | [] => (none, [])
          else (none, rest)
        | [] => (none, [])
      else (none, later)
    | [] => (none, [])
  else
    (none, later)

/-- Reading a character or an ill-formed piece leaves at most the bytes after the first. -/
theorem takeChar_length_le (first : UInt8) (later : List UInt8) :
    (takeChar first later).2.length ≤ later.length := by
  unfold takeChar
  repeat' split
  all_goals simp_all <;> omega

/-- The text of some bytes after the characters read before, the latest first, with U+FFFD for each
ill-formed piece. -/
def decodeOnto (before : List Char) : List UInt8 → List Char
  | [] => before.reverse
  | first :: later =>
    decodeOnto ((takeChar first later).1.getD '\uFFFD' :: before) (takeChar first later).2
termination_by bytes => bytes.length
decreasing_by
  have := takeChar_length_le first later
  simp; omega

/-- The text of some bytes, with U+FFFD for each ill-formed piece. -/
def decodeLossy (bytes : List UInt8) : List Char :=
  decodeOnto [] bytes

/-- The text of some bytes after the characters read before, the latest first; `none` if an
ill-formed piece comes. -/
def decodeOnto? (before : List Char) : List UInt8 → Option (List Char)
  | [] => some before.reverse
  | first :: later =>
    match (takeChar first later).1 with
    | some c => decodeOnto? (c :: before) (takeChar first later).2
    | none => none
termination_by bytes => bytes.length
decreasing_by
  have := takeChar_length_le first later
  simp; omega

/-- The text of well-formed bytes. -/
def decode? (bytes : List UInt8) : Option (List Char) :=
  decodeOnto? [] bytes

/-! ## Reading what was written -/

/-- The numbers of characters leave out the surrogates and end at U+10FFFF. -/
theorem isScalar (c : Char) : c.toNat < 0xD800 ∨ (0xDFFF < c.toNat ∧ c.toNat < 0x110000) :=
  c.valid

theorem toNat_ofNat {n : Nat} (small : n < 0x100) : (UInt8.ofNat n).toNat = n := by
  rw [UInt8.toNat_ofNat', Nat.mod_eq_of_lt small]

theorem isContinuation_ofNat {n : Nat} (small : n < 0x40) :
    isContinuation (.ofNat (0x80 + n)) = true := by
  have value := toNat_ofNat (n := 0x80 + n) (by omega)
  simp only [isContinuation, value, Bool.and_eq_true, decide_eq_true_eq]
  omega

/-- A continuation byte carries the bits that it is made of. -/
theorem payload_ofNat {n : Nat} (small : n < 0x40) : payload (.ofNat (0x80 + n)) = n := by
  have value := toNat_ofNat (n := 0x80 + n) (by omega)
  unfold payload
  omega

/-- The bytes of a character are read as this character. -/
theorem takeChar_encodeChar {c : Char} {first : UInt8} {later rest : List UInt8}
    (h : encodeChar c ++ rest = first :: later) : takeChar first later = (some c, rest) := by
  have scalar := isScalar c
  have back := Char.ofNat_toNat c
  have low : c.toNat % 0x40 < 0x40 := Nat.mod_lt _ (by decide)
  have middle : c.toNat / 0x40 % 0x40 < 0x40 := Nat.mod_lt _ (by decide)
  have high : c.toNat / 0x1000 % 0x40 < 0x40 := Nat.mod_lt _ (by decide)
  unfold encodeChar at h
  simp only at h
  split at h
  · -- one byte
    simp only [List.cons_append, List.nil_append] at h
    obtain ⟨rfl, rfl⟩ := List.cons.inj h
    rw [takeChar.eq_def, toNat_ofNat (by omega), if_pos (by omega), back]
  split at h
  · -- two bytes
    simp only [List.cons_append, List.nil_append] at h
    obtain ⟨rfl, rfl⟩ := List.cons.inj h
    rw [takeChar.eq_def, toNat_ofNat (by omega), if_neg (by omega), if_neg (by omega),
      if_pos (by omega)]
    simp only [isContinuation_ofNat low, payload_ofNat low, if_true]
    rw [show (0xC0 + c.toNat / 0x40 - 0xC0) * 0x40 + c.toNat % 0x40 = c.toNat by omega, back]
  split at h
  · -- three bytes
    simp only [List.cons_append, List.nil_append] at h
    obtain ⟨rfl, rfl⟩ := List.cons.inj h
    have second : isSecond (.ofNat (0xE0 + c.toNat / 0x1000))
        (.ofNat (0x80 + c.toNat / 0x40 % 0x40)) = true := by
      rw [isSecond, isContinuation_ofNat middle, toNat_ofNat (by omega), toNat_ofNat (by omega)]
      simp
      omega
    rw [takeChar.eq_def, toNat_ofNat (n := 0xE0 + _) (by omega), if_neg (by omega),
      if_neg (by omega), if_neg (by omega), if_pos (by omega)]
    simp only [second, isContinuation_ofNat low, payload_ofNat low, payload_ofNat middle, if_true]
    rw [show (0xE0 + c.toNat / 0x1000 - 0xE0) * 0x1000 + c.toNat / 0x40 % 0x40 * 0x40 +
          c.toNat % 0x40 = c.toNat
      by omega, back]
  · -- four bytes
    simp only [List.cons_append, List.nil_append] at h
    obtain ⟨rfl, rfl⟩ := List.cons.inj h
    have second : isSecond (.ofNat (0xF0 + c.toNat / 0x40000))
        (.ofNat (0x80 + c.toNat / 0x1000 % 0x40)) = true := by
      rw [isSecond, isContinuation_ofNat high, toNat_ofNat (by omega), toNat_ofNat (by omega)]
      simp
      omega
    rw [takeChar.eq_def, toNat_ofNat (n := 0xF0 + _) (by omega), if_neg (by omega),
      if_neg (by omega), if_neg (by omega), if_neg (by omega), if_pos (by omega)]
    simp only [second, isContinuation_ofNat low, isContinuation_ofNat middle, payload_ofNat low,
      payload_ofNat middle, payload_ofNat high, if_true]
    rw [show (0xF0 + c.toNat / 0x40000 - 0xF0) * 0x40000 + c.toNat / 0x1000 % 0x40 * 0x1000 +
      c.toNat / 0x40 % 0x40 * 0x40 + c.toNat % 0x40 = c.toNat by omega, back]

/-- The bytes of a text that begins with a character begin with a byte, from which on this character
is read. -/
theorem encode_cons (c : Char) (cs : List Char) :
    ∃ first later, encode (c :: cs) = first :: later ∧
      takeChar first later = (some c, encode cs) := by
  cases bytes : encodeChar c ++ encode cs with
  | nil =>
    have size := length_encodeChar c
    have positive := c.utf8Size_pos
    simp_all
  | cons first later => exact ⟨first, later, bytes, takeChar_encodeChar bytes⟩

theorem decodeOnto_encode (before cs : List Char) :
    decodeOnto before (encode cs) = before.reverse ++ cs := by
  induction cs generalizing before with
  | nil => simp [encode, decodeOnto]
  | cons c cs ih =>
    obtain ⟨first, later, bytes, read⟩ := encode_cons c cs
    rw [bytes, decodeOnto, read, Option.getD_some, ih]
    simp

theorem decodeOnto?_encode (before cs : List Char) :
    decodeOnto? before (encode cs) = some (before.reverse ++ cs) := by
  induction cs generalizing before with
  | nil => simp [encode, decodeOnto?]
  | cons c cs ih =>
    obtain ⟨first, later, bytes, read⟩ := encode_cons c cs
    rw [bytes, decodeOnto?, read]
    simp only
    rw [ih]
    simp

/-- A text is read from its bytes. -/
theorem decodeLossy_encode (cs : List Char) : decodeLossy (encode cs) = cs :=
  decodeOnto_encode [] cs

/-- The bytes of a text are well-formed and read as this text. -/
theorem decode?_encode (cs : List Char) : decode? (encode cs) = some cs :=
  decodeOnto?_encode [] cs

end TemplateScan.Text.Utf8
