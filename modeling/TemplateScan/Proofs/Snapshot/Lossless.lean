import TemplateScan.Proofs.Snapshot.RoundTrip

/-!
# States that fit into a snapshot

A state fits if its names are short enough for their lengths, its nestings small enough for their
counts, and all of it small enough for the limit.  Its snapshot leaves nothing out and gives it back
as it was.

* `Fits`: what it takes for a state to fit, by its names and numbers.
* `length_encodeWithin_le`: no snapshot exceeds its limit.
* `HasRoom`: all of a state is kept where there is room for what a snapshot holds of its names.
* `Fits.decode_encode_self`: a state that fits comes back from its snapshot.
-/

namespace TemplateScan.Snapshot

open Text Markup Mustache

attribute [ext] ScanState

/-! ## Sizes -/

/-- The bytes that the whole entry of a tag takes. -/
def wholeTagSize : Tag → Nat
  | .known _ => 1
  | .custom name => 2 + Utf8.byteLength name.toList

/-- The bytes that the whole entry of a section takes. -/
def wholeSectionSize (name : String) : Nat :=
  1 + Utf8.byteLength name.toList

/-- The bytes that the texts of the delimiters that were set take. -/
def wholeDelimiterSize (d : Delimiters) : Nat :=
  Utf8.byteLength d.opening.customText.toList + Utf8.byteLength d.closing.customText.toList +
    Utf8.byteLength d.previousClosing.customText.toList

/-- The bytes that it takes to write a state down: two headers of four bytes, the lengths and the
texts of three delimiters, and the entries. -/
def snapshotSize (s : ScanState) : Nat :=
  8 + 3 + wholeDelimiterSize s.delimiters + totalSize wholeTagSize s.tags.toList +
    totalSize wholeSectionSize s.sections.toList

/-- A state fits into a snapshot of at most `capacity` bytes. -/
structure Fits (capacity : Nat) (s : ScanState) : Prop where
  tagNames : ∀ name, .custom name ∈ s.tags.toList → Utf8.byteLength name.toList ≤ maxNameBytes
  sectionNames : ∀ name ∈ s.sections.toList, Utf8.byteLength name.toList ≤ maxNameBytes
  delimiterTexts : ∀ text ∈ delimiterTexts s.delimiters, Utf8.byteLength text.toList ≤ maxNameBytes
  tagCount : s.tags.size ≤ maxScopes
  sectionCount : s.sections.size ≤ maxScopes
  size : snapshotSize s ≤ capacity

instance (capacity : Nat) (s : ScanState) : Decidable (Fits capacity s) :=
  decidable_of_iff
    ((∀ tag ∈ s.tags.toList, wholeTagSize tag ≤ 2 + maxNameBytes) ∧
      (∀ name ∈ s.sections.toList, Utf8.byteLength name.toList ≤ maxNameBytes) ∧
      (∀ text ∈ delimiterTexts s.delimiters, Utf8.byteLength text.toList ≤ maxNameBytes) ∧
      s.tags.size ≤ maxScopes ∧ s.sections.size ≤ maxScopes ∧ snapshotSize s ≤ capacity) <| by
    constructor
    · rintro ⟨htags, hsections, htexts, htagCount, hsectionCount, hsize⟩
      exact ⟨fun name hname => Nat.le_of_add_le_add_left (htags _ hname), hsections, htexts,
        htagCount, hsectionCount, hsize⟩
    · rintro ⟨htags, hsections, htexts, htagCount, hsectionCount, hsize⟩
      refine ⟨?_, hsections, htexts, htagCount, hsectionCount, hsize⟩
      intro tag htag
      cases tag with
      | known e => exact Nat.le_add_right 1 256
      | custom name => exact Nat.add_le_add_left (htags name htag) 2

theorem totalSize_congr {α : Type} {size size' : α → Nat} {xs : List α}
    (h : ∀ x ∈ xs, size x = size' x) : totalSize size xs = totalSize size' xs := by
  induction xs with
  | nil => rfl
  | cons x xs ih =>
    rw [List.forall_mem_cons] at h
    rw [totalSize_cons, totalSize_cons, h.1, ih h.2]

theorem clippedLength_eq_self {name : String}
    (hshort : Utf8.byteLength name.toList ≤ maxNameBytes) :
    clippedLength name = Utf8.byteLength name.toList := by
  rw [clippedLength, clippedName_eq_self hshort]

/-! ## No snapshot exceeds its limit -/

theorem length_nestingBytes {α : Type} {entryOf : α → List UInt8} {size : α → Nat}
    (hsize : ∀ scope, (entryOf scope).length = size scope) (n : Nat) (scopes : List α) :
    (nestingBytes n (scopes.map entryOf)).length = 4 + totalSize size scopes := by
  rw [nestingBytes, List.length_append, List.length_append, length_flatten_map hsize]
  rfl

theorem length_delimiterBytes (d : Delimiters) :
    (delimiterBytes d).length = 3 + delimiterSize d := by
  rw [delimiterBytes_eq]
  simp only [List.length_append, List.length_nil, length_nameBytes, sectionSize, delimiterSize]
  omega

theorem length_encodeWithin (limit : Nat) (s : ScanState) :
    (encodeWithin limit s).bytes.length =
      reserved limit s.delimiters + totalSize tagSize (keptTags limit s) +
        totalSize sectionSize (keptSections limit s) := by
  rw [encodeWithin_eq, List.length_append, List.length_append, length_nestingBytes length_tagBytes,
    length_nestingBytes length_nameBytes, length_delimiterBytes, ← reserved_eq, delimiterLength_eq,
    fixedBytes]
  omega

/-- A snapshot that has room for the headers takes no more than its limit. -/
theorem length_encodeWithin_le {limit : Nat} (s : ScanState) (hlimit : fixedBytes ≤ limit) :
    (encodeWithin limit s).bytes.length ≤ limit := by
  have hreserved : reserved limit s.delimiters ≤ limit := by
    rw [reserved]
    split <;> omega
  -- the tags take what the reserved bytes leave at most, and the sections what the tags leave
  have htags : totalSize tagSize (keptTags limit s) ≤ limit - reserved limit s.delimiters :=
    totalSize_longestFitting_le _ _ _
  have hsections : totalSize sectionSize (keptSections limit s) ≤
      limit - reserved limit s.delimiters - totalSize tagSize (keptTags limit s) :=
    totalSize_longestFitting_le _ _ _
  rw [length_encodeWithin]
  omega

/-- A snapshot takes no more than its capacity. -/
theorem length_encode_le (capacity : Nat) (s : ScanState) :
    (encode capacity capacity s).bytes.length ≤ capacity := by
  by_cases hlimit : capacity < fixedBytes
  · simp [encode, hlimit]
  · have hroom : fixedBytes ≤ min capacity capacity := by
      rw [Nat.min_self]
      exact Nat.le_of_not_lt hlimit
    rw [encode_of_le s hroom, Nat.min_self]
    exact length_encodeWithin_le s (Nat.le_of_not_lt hlimit)

/-! ## States that there is room for -/

/-- The bytes that a state takes in a snapshot, with its names cut: headers and lengths, the texts
of the delimiters and the entries. -/
def storedSize (s : ScanState) : Nat :=
  fixedBytes + delimiterSize s.delimiters + totalSize tagSize s.tags.toList +
    totalSize sectionSize s.sections.toList

/-- A snapshot of at most `limit` bytes can tell of all of a state, but for the ends of long
names. -/
structure HasRoom (limit : Nat) (s : ScanState) : Prop where
  tagCount : s.tags.size ≤ maxScopes
  sectionCount : s.sections.size ≤ maxScopes
  size : storedSize s ≤ limit

section HasRoom

variable {limit : Nat} {s : ScanState}

theorem HasRoom.delimiters_fit (hroom : HasRoom limit s) :
    fixedBytes + delimiterSize s.delimiters ≤ limit := by
  have hsize := hroom.size
  rw [storedSize] at hsize
  omega

theorem HasRoom.reserved_eq (hroom : HasRoom limit s) :
    reserved limit s.delimiters = fixedBytes + delimiterSize s.delimiters := by
  rw [reserved, if_pos hroom.delimiters_fit]

/-- All tags are kept. -/
theorem HasRoom.keptTags_eq (hroom : HasRoom limit s) : keptTags limit s = s.tags.toList := by
  have hsize := hroom.size
  rw [storedSize] at hsize
  rw [keptTags, List.take_of_length_le (by rw [Nesting.length_toList]; exact hroom.tagCount)]
  -- the account of the state's size has a summand for each part, and together they fit
  refine longestFitting_eq_self ?_
  rw [hroom.reserved_eq]
  omega

/-- All sections are kept. -/
theorem HasRoom.keptSections_eq (hroom : HasRoom limit s) :
    keptSections limit s = s.sections.toList := by
  have hsize := hroom.size
  rw [storedSize] at hsize
  rw [keptSections, List.take_of_length_le
    (by rw [Nesting.length_toList]; exact hroom.sectionCount)]
  refine longestFitting_eq_self ?_
  rw [hroom.reserved_eq, hroom.keptTags_eq]
  omega

/-- The snapshot of a state that there is room for leaves nothing out. -/
theorem HasRoom.isLossless_encodeWithin (hroom : HasRoom limit s) :
    (encodeWithin limit s).isLossless = true := by
  have hdelimiters : ¬limit < fixedBytes + delimiterSize s.delimiters :=
    Nat.not_lt.mpr hroom.delimiters_fit
  rw [encodeWithin_eq, hroom.keptTags_eq, hroom.keptSections_eq]
  simp [Encoding.isLossless, hdelimiters]

end HasRoom

/-! ## States that fit -/

section Fits

variable {capacity : Nat} {s : ScanState}

theorem Fits.totalSize_tags (hfits : Fits capacity s) :
    totalSize tagSize s.tags.toList = totalSize wholeTagSize s.tags.toList := by
  refine totalSize_congr ?_
  intro tag htag
  cases tag with
  | known e => rfl
  | custom name => rw [tagSize, wholeTagSize, clippedLength_eq_self (hfits.tagNames name htag)]

theorem Fits.totalSize_sections (hfits : Fits capacity s) :
    totalSize sectionSize s.sections.toList = totalSize wholeSectionSize s.sections.toList := by
  refine totalSize_congr ?_
  intro name hname
  rw [sectionSize, wholeSectionSize, clippedLength_eq_self (hfits.sectionNames name hname)]

theorem Fits.delimiters_short (hfits : Fits capacity s) :
    Utf8.byteLength s.delimiters.opening.customText.toList ≤ maxNameBytes ∧
      Utf8.byteLength s.delimiters.closing.customText.toList ≤ maxNameBytes ∧
      Utf8.byteLength s.delimiters.previousClosing.customText.toList ≤ maxNameBytes := by
  simpa [Snapshot.delimiterTexts] using hfits.delimiterTexts

theorem Fits.delimiterSize (hfits : Fits capacity s) :
    delimiterSize s.delimiters = wholeDelimiterSize s.delimiters := by
  obtain ⟨hopening, hclosing, hprevious⟩ := hfits.delimiters_short
  rw [Snapshot.delimiterSize, wholeDelimiterSize, clippedLength_eq_self hopening,
    clippedLength_eq_self hclosing, clippedLength_eq_self hprevious]

/-- Where no name is cut, the two accounts of the state's size are the same. -/
theorem Fits.storedSize_eq (hfits : Fits capacity s) : storedSize s = snapshotSize s := by
  rw [storedSize, hfits.delimiterSize, hfits.totalSize_tags, hfits.totalSize_sections, fixedBytes,
    snapshotSize]

theorem Fits.hasRoom (hfits : Fits capacity s) : HasRoom capacity s where
  tagCount := hfits.tagCount
  sectionCount := hfits.sectionCount
  size := by
    rw [hfits.storedSize_eq]
    exact hfits.size

theorem Fits.restored_tags (hfits : Fits capacity s) : (restored capacity s).tags = s.tags := by
  -- no name is cut; and as all tags are kept, no placeholder follows
  have hmap : s.tags.toList.map clippedTag = s.tags.toList := by
    refine (List.map_congr_left ?_).trans (List.map_id _)
    intro tag htag
    cases tag with
    | known e => rfl
    | custom name => rw [clippedTag, clippedName_eq_self (hfits.tagNames name htag), id]
  rw [restored, hfits.hasRoom.keptTags_eq, hmap, Nesting.length_toList,
    Nat.min_eq_left hfits.tagCount, Nat.sub_self, List.replicate_zero, List.append_nil,
    Nesting.ofList_toList]

theorem Fits.restored_sections (hfits : Fits capacity s) :
    (restored capacity s).sections = s.sections := by
  have hmap : s.sections.toList.map clippedName = s.sections.toList := by
    refine (List.map_congr_left ?_).trans (List.map_id _)
    intro name hname
    exact clippedName_eq_self (hfits.sectionNames name hname)
  rw [restored, hfits.hasRoom.keptSections_eq, hmap, Nesting.length_toList,
    Nat.min_eq_left hfits.sectionCount, Nat.sub_self, List.replicate_zero, List.append_nil,
    Nesting.ofList_toList]

theorem Fits.restored_delimiters (hfits : Fits capacity s) :
    (restored capacity s).delimiters = s.delimiters := by
  obtain ⟨hopening, hclosing, hprevious⟩ := hfits.delimiters_short
  rw [restored, if_pos hfits.hasRoom.delimiters_fit, clippedDelimiters]
  simp only [clippedDelimiter, clippedName_eq_self hopening, clippedName_eq_self hclosing,
    clippedName_eq_self hprevious, Delimiter.ofText_customText]

theorem Fits.restored_eq (hfits : Fits capacity s) : restored capacity s = s :=
  ScanState.ext hfits.restored_tags hfits.restored_sections hfits.restored_delimiters

/-- The limit of a state that fits has room for the headers. -/
theorem Fits.fixedBytes_le (hfits : Fits capacity s) : fixedBytes ≤ min capacity capacity := by
  have hsize := hfits.hasRoom.delimiters_fit
  omega

theorem Fits.encode_eq (hfits : Fits capacity s) :
    encode capacity capacity s = encodeWithin capacity s := by
  rw [encode_of_le s hfits.fixedBytes_le, Nat.min_self]

/-- The snapshot of a state that fits leaves nothing out. -/
theorem Fits.isLossless (hfits : Fits capacity s) :
    (encode capacity capacity s).isLossless = true := by
  rw [hfits.encode_eq]
  exact hfits.hasRoom.isLossless_encodeWithin

/-- A state that fits comes back from its snapshot. -/
theorem Fits.decode_encode_self (hfits : Fits capacity s) :
    decode capacity (encode capacity capacity s).bytes = { state := s, isCorrupt := false } := by
  have hlimit : fixedBytes ≤ capacity := by
    have hle := hfits.hasRoom.delimiters_fit
    omega
  rw [hfits.encode_eq, decode_encodeWithin (length_encodeWithin_le s hlimit), hfits.restored_eq]

end Fits

end TemplateScan.Snapshot
