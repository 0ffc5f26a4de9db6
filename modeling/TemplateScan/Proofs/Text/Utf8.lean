import TemplateScan.Text.Utf8

/-!
# Well-formed UTF-8

Reading takes no character from bytes other than its own: the checks of the second byte leave no
other way to write it, and none to write a number that is no character.

* `encodeChar_two`, `encodeChar_three`, `encodeChar_four`: bytes of the right shape are the bytes of
  the character they are read as.
* `decode?_eq_some_iff`: a text is read from the bytes that it is written as, and from no others.
-/

namespace TemplateScan.Text.Utf8

/-- The number of the character made from the number of a character. -/
theorem toNat_charOfNat {n : Nat} (hscalar : n < 0xD800 ∨ (0xDFFF < n ∧ n < 0x110000)) :
    (Char.ofNat n).toNat = n := by
  rw [Char.ofNat, dif_pos hscalar]
  rfl

/-- A byte is known by its number. -/
theorem ofNat_eq {n : Nat} {b : UInt8} (h : n = b.toNat) : UInt8.ofNat n = b := by
  rw [h, UInt8.ofNat_toNat]

theorem payload_eq (b : UInt8) : payload b = b.toNat - 0x80 := rfl

theorem isContinuation_iff (b : UInt8) :
    isContinuation b = true ↔ 0x80 ≤ b.toNat ∧ b.toNat < 0xC0 := by
  simp [isContinuation]

/-- What is asked of a second byte besides that it continues a character. -/
theorem isSecond_iff (first b : UInt8) :
    isSecond first b = true ↔
      isContinuation b = true ∧ (first.toNat = 0xE0 → 0xA0 ≤ b.toNat) ∧
        (first.toNat = 0xED → b.toNat < 0xA0) ∧ (first.toNat = 0xF0 → 0x90 ≤ b.toNat) ∧
        (first.toNat = 0xF4 → b.toNat < 0x90) := by
  simp only [isSecond, Bool.and_eq_true, Bool.or_eq_true, bne_iff_ne, decide_eq_true_eq, ne_eq,
    Decidable.imp_iff_not_or, and_assoc]

/-! ## The bytes of a character, by their number -/

section Bytes

variable {first b b' b'' : UInt8}

theorem encodeChar_one (hfirst : first.toNat < 0x80) :
    encodeChar (Char.ofNat first.toNat) = [first] := by
  have hnumber := toNat_charOfNat (n := first.toNat) (by omega)
  simp only [encodeChar, hnumber, if_pos hfirst, UInt8.ofNat_toNat]

theorem encodeChar_two (hlow : 0xC2 ≤ first.toNat) (hhigh : first.toNat < 0xE0)
    (hb : isContinuation b = true) :
    encodeChar (Char.ofNat ((first.toNat - 0xC0) * 0x40 + payload b)) = [first, b] := by
  rw [isContinuation_iff] at hb
  have hnumber := toNat_charOfNat (n := (first.toNat - 0xC0) * 0x40 + payload b) (by
    simp only [payload_eq]; omega)
  simp only [encodeChar, hnumber]
  -- from 0xC2 on the number does not fit into one byte
  rw [if_neg (by omega), if_pos (by simp only [payload_eq]; omega),
    ofNat_eq (b := first) (by simp only [payload_eq]; omega),
    ofNat_eq (b := b) (by simp only [payload_eq]; omega)]

theorem encodeChar_three (hlow : 0xE0 ≤ first.toNat) (hhigh : first.toNat < 0xF0)
    (hb : isSecond first b = true) (hb' : isContinuation b' = true) :
    encodeChar (Char.ofNat ((first.toNat - 0xE0) * 0x1000 + payload b * 0x40 + payload b')) =
      [first, b, b'] := by
  obtain ⟨hcont, hshort, hsurrogate, -, -⟩ := (isSecond_iff first b).mp hb
  rw [isContinuation_iff] at hcont hb'
  have hnumber := toNat_charOfNat
    (n := (first.toNat - 0xE0) * 0x1000 + payload b * 0x40 + payload b') (by
      simp only [payload_eq]; omega)
  simp only [encodeChar, hnumber]
  rw [if_neg (by simp only [payload_eq]; omega), if_neg (by simp only [payload_eq]; omega),
    if_pos (by simp only [payload_eq]; omega),
    ofNat_eq (b := first) (by simp only [payload_eq]; omega),
    ofNat_eq (b := b) (by simp only [payload_eq]; omega),
    ofNat_eq (b := b') (by simp only [payload_eq]; omega)]

theorem encodeChar_four (hlow : 0xF0 ≤ first.toNat) (hhigh : first.toNat < 0xF5)
    (hb : isSecond first b = true) (hb' : isContinuation b' = true)
    (hb'' : isContinuation b'' = true) :
    encodeChar (Char.ofNat ((first.toNat - 0xF0) * 0x40000 + payload b * 0x1000 +
      payload b' * 0x40 + payload b'')) = [first, b, b', b''] := by
  obtain ⟨hcont, -, -, hshort, hlast⟩ := (isSecond_iff first b).mp hb
  rw [isContinuation_iff] at hcont hb' hb''
  have hnumber := toNat_charOfNat
    (n := (first.toNat - 0xF0) * 0x40000 + payload b * 0x1000 + payload b' * 0x40 + payload b'') (by
      simp only [payload_eq]; omega)
  simp only [encodeChar, hnumber]
  rw [if_neg (by simp only [payload_eq]; omega), if_neg (by simp only [payload_eq]; omega),
    if_neg (by simp only [payload_eq]; omega),
    ofNat_eq (b := first) (by simp only [payload_eq]; omega),
    ofNat_eq (b := b) (by simp only [payload_eq]; omega),
    ofNat_eq (b := b') (by simp only [payload_eq]; omega),
    ofNat_eq (b := b'') (by simp only [payload_eq]; omega)]

end Bytes

/-! ## Texts -/

/-- A character that is read stands there with its own bytes. -/
theorem encodeChar_of_takeChar {first : UInt8} {later rest : List UInt8} {c : Char}
    (h : takeChar first later = (some c, rest)) : encodeChar c ++ rest = first :: later := by
  unfold takeChar at h
  repeat' split at h
  -- an ill-formed piece gives no character
  all_goals simp only [Prod.mk.injEq, Option.some.injEq, reduceCtorEq, false_and] at h
  all_goals obtain ⟨rfl, rfl⟩ := h
  · exact congrArg (· ++ later) (encodeChar_one ‹_›)
  · exact congrArg (· ++ _) (encodeChar_two (by omega) ‹_› ‹_›)
  · exact congrArg (· ++ _) (encodeChar_three (by omega) ‹_› ‹_› ‹_›)
  · exact congrArg (· ++ _) (encodeChar_four (by omega) ‹_› ‹_› ‹_› ‹_›)

theorem encode_of_decodeOnto? {before cs : List Char} {bytes : List UInt8}
    (h : decodeOnto? before bytes = some cs) : encode cs = encode before.reverse ++ bytes := by
  -- on the characters read, with those before them as the text already written
  induction before, bytes using decodeOnto?.induct with
  | case1 before =>
    rw [decodeOnto?] at h
    rw [Option.some.inj h, List.append_nil]
  | case2 before first later c hread ih =>
    rw [decodeOnto?, hread] at h
    have hbytes := encodeChar_of_takeChar (Prod.ext hread rfl)
    rw [ih h, ← hbytes, List.reverse_cons, encode, encode, List.flatMap_append,
      List.append_assoc, List.flatMap_singleton]
  | case3 before first later hread =>
    rw [decodeOnto?, hread] at h
    cases h

/-- Well-formed bytes are those of the text they are read as, and no others are. -/
theorem decode?_eq_some_iff {cs : List Char} {bytes : List UInt8} :
    decode? bytes = some cs ↔ encode cs = bytes := by
  constructor
  · intro h
    rw [encode_of_decodeOnto? h, List.reverse_nil]
    rfl
  · rintro rfl
    exact decode?_encode cs

end TemplateScan.Text.Utf8
