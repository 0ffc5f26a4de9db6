import TemplateScan.Proofs.Snapshot.LongestFitting
import TemplateScan.Snapshot.Decoding

/-!
# Reading the parts of a snapshot back

Each part that is written is read back, cut as it was, from any bytes that begin with it, and the
bytes behind it are left over.

* `takeName?_nameBytes`, `takeTag?_tagBytes`, `takeDelimiter_nameBytes`: names, tags and delimiters
  come back cut.
* `takeNesting_nestingBytes`: a nesting comes back as the scopes written, cut, with placeholders for
  the rest.
-/

namespace TemplateScan.Snapshot

open Text Markup Mustache

/-! ## What is left of names, tags and delimiters -/

/-- The longest beginning of a name that has at most 255 bytes. -/
def clippedName (name : String) : String :=
  String.ofList (longestFitting Char.utf8Size maxNameBytes name.toList)

/-- The number of bytes that a snapshot holds of a name. -/
def clippedLength (name : String) : Nat :=
  Utf8.byteLength (clippedName name).toList

/-- A tag with its name cut. -/
def clippedTag : Tag → Tag
  | .known e => .known e
  | .custom name => .custom (clippedName name)

/-- A delimiter with its text cut. -/
def clippedDelimiter (d : Delimiter) : Delimiter :=
  .ofText (clippedName d.customText)

theorem clippedName_eq_ofList_clip (name : String) :
    clippedName name = String.ofList (clip name) := by
  rw [clip_eq_longestFitting, clippedName]

theorem toList_clippedName (name : String) : (clippedName name).toList = clip name := by
  rw [clippedName_eq_ofList_clip, String.toList_ofList]

theorem clippedLength_eq (name : String) : clippedLength name = Utf8.byteLength (clip name) := by
  rw [clippedLength, toList_clippedName]

/-- A name that is short enough is left as it is. -/
theorem clippedName_eq_self {name : String} (hshort : Utf8.byteLength name.toList ≤ maxNameBytes) :
    clippedName name = name := by
  rw [clippedName_eq_ofList_clip, clip_eq_toList hshort, String.ofList_toList]

/-! ## Sizes of entries -/

/-- The bytes of the entry of a tag: one for an element of HTML, and for any other two and those of
its name. -/
def tagSize : Tag → Nat
  | .known _ => 1
  | .custom name => 2 + clippedLength name

/-- The bytes of the entry of a section: one and those of its name. -/
def sectionSize (name : String) : Nat :=
  1 + clippedLength name

theorem sectionSize_pos (name : String) : 0 < sectionSize name := by
  rw [sectionSize]
  omega

theorem tagSize_pos (tag : Tag) : 0 < tagSize tag := by
  cases tag with
  | known e => exact Nat.one_pos
  | custom name =>
    rw [tagSize]
    omega

theorem length_nameBytes (name : String) : (nameBytes name).length = sectionSize name := by
  rw [nameBytes, List.length_cons, Utf8.length_encode, sectionSize, clippedLength_eq, Nat.add_comm]

theorem length_tagBytes (tag : Tag) : (tagBytes tag).length = tagSize tag := by
  cases tag with
  | known e => rfl
  | custom name =>
    rw [tagBytes, List.length_cons, length_nameBytes, tagSize, sectionSize]
    omega

/-- Entries in a row take what each of them takes. -/
theorem length_flatten_map {α : Type} {entryOf : α → List UInt8} {size : α → Nat}
    (hsize : ∀ scope, (entryOf scope).length = size scope) (scopes : List α) :
    (scopes.map entryOf).flatten.length = totalSize size scopes := by
  induction scopes with
  | nil => rfl
  | cons scope scopes ih =>
    rw [List.map_cons, List.flatten_cons, List.length_append, hsize, ih, totalSize_cons]

/-! ## Bytes and numbers -/

theorem takeBytes?_append (taken rest : List UInt8) :
    takeBytes? taken.length (taken ++ rest) = some (taken, rest) := by
  induction taken with
  | nil => rfl
  | cons b taken ih =>
    simp only [List.length_cons, List.cons_append, takeBytes?, ih, Option.map_some]

theorem length_numberBytes (n : Nat) : (numberBytes n).length = 2 :=
  rfl

theorem takeNumber?_numberBytes {n : Nat} (hn : n ≤ maxScopes) (rest : List UInt8) :
    takeNumber? (numberBytes n ++ rest) = some (n, rest) := by
  rw [maxScopes] at hn
  have hlow := Utf8.toNat_ofNat (n := n % 256) (Nat.mod_lt _ (by decide))
  have hhigh := Utf8.toNat_ofNat (n := n / 256) (by omega)
  rw [numberBytes, List.cons_append, List.cons_append, List.nil_append, takeNumber?, hlow, hhigh,
    Nat.mod_add_div]

/-! ## Names, tags and delimiters -/

/-- The length is cut to a byte, but the text has been cut to 255 bytes before. -/
theorem toNat_lengthByte (name : String) :
    (UInt8.ofNat (Utf8.byteLength (clip name))).toNat = (Utf8.encode (clip name)).length := by
  have hle := byteLength_clip_le name
  rw [maxNameBytes] at hle
  rw [Utf8.toNat_ofNat (by omega), Utf8.length_encode]

theorem takeName?_nameBytes (name : String) (rest : List UInt8) :
    takeName? (nameBytes name ++ rest) = some (clippedName name, rest) := by
  rw [nameBytes, List.cons_append, takeName?, toNat_lengthByte, takeBytes?_append, Option.map_some]
  simp only [Utf8.decodeLossy_encode, clippedName_eq_ofList_clip]

/-- No element of HTML is stored under the byte of the custom tags. -/
theorem byte_ne_customByte (e : Element) : e.byte ≠ Tag.customByte := by
  intro hbyte
  have hnone : Element.ofByte? Tag.customByte = none := by decide +kernel
  rw [← hbyte, Element.ofByte?_byte] at hnone
  cases hnone

theorem takeTag?_tagBytes (tag : Tag) (rest : List UInt8) :
    takeTag? (tagBytes tag ++ rest) = some (clippedTag tag, rest) := by
  cases tag with
  | known e =>
    rw [tagBytes, List.cons_append, List.nil_append, takeTag?, if_neg (byte_ne_customByte e),
      Element.ofByte?_byte, Option.map_some, clippedTag]
  | custom name =>
    rw [tagBytes, List.cons_append, takeTag?, if_pos rfl, takeName?_nameBytes, Option.map_some,
      clippedTag]

theorem takeDelimiter_nameBytes (d : Delimiter) (rest : List UInt8) :
    takeDelimiter (some (nameBytes d.customText ++ rest)) = (clippedDelimiter d, some rest) := by
  simp only [takeDelimiter, takeName?_nameBytes, clippedDelimiter]

/-! ## Nestings -/

section Nesting

variable {α : Type} {entryOf : α → List UInt8} {clipped : α → α}
  {takeOne? : List UInt8 → Option (α × List UInt8)}

/-- Entries that can be read one by one can be read in a row. -/
theorem takeEntries_flatten (hone : ∀ x rest, takeOne? (entryOf x ++ rest) = some (clipped x, rest))
    (before scopes : List α) (rest : List UInt8) :
    takeEntries takeOne? scopes.length before ((scopes.map entryOf).flatten ++ rest) =
      ((scopes.map clipped).reverse ++ before, some rest) := by
  induction scopes generalizing before with
  | nil => rfl
  | cons x later ih =>
    rw [List.map_cons, List.flatten_cons, List.append_assoc, List.length_cons, takeEntries, hone]
    simp only [ih, List.map_cons, List.reverse_cons, List.append_assoc, List.singleton_append]

/-- Bringing the scopes read to a size puts placeholders inside them. -/
theorem padded_reverse (placeholder : α) (size : Nat) (scopes : List α) :
    padded placeholder size scopes.reverse =
      .ofList (scopes ++ List.replicate (size - scopes.length) placeholder) := by
  simp [padded, Nesting.ofList]

/-- A nesting is read back from the entries written of it. -/
theorem takeNesting_nestingBytes (placeholder : α)
    (hone : ∀ x rest, takeOne? (entryOf x ++ rest) = some (clipped x, rest)) {size : Nat}
    {scopes : List α} (hlen : scopes.length ≤ min size maxScopes) (rest : List UInt8) :
    takeNesting placeholder takeOne? (some (nestingBytes size (scopes.map entryOf) ++ rest)) =
      (.ofList (scopes.map clipped ++
        List.replicate (min size maxScopes - scopes.length) placeholder),
        some rest) := by
  -- both numbers are small enough for the two bytes of each
  have hfew : (scopes.map entryOf).length ≤ maxScopes := by
    rw [List.length_map]
    omega
  rw [nestingBytes, takeNesting, List.append_assoc, List.append_assoc]
  simp only [takeNumber?_numberBytes hfew,
    takeNumber?_numberBytes (Nat.min_le_right size maxScopes)]
  rw [List.length_map, takeEntries_flatten hone, List.append_nil, Nat.max_eq_left hlen]
  simp only [padded_reverse, List.length_map]

end Nesting

end TemplateScan.Snapshot
