import TemplateScan.Proofs.Snapshot.Parts

/-!
# What a snapshot gives back

A snapshot leaves out what does not fit into its limit.  This module says what of a state is read
back from its snapshot, without going through the bytes.

* `keptTags`, `keptSections`: the scopes whose entries are written, the longest beginnings that fit.
* `restored`: the state that comes back, with names cut and placeholders for the scopes left out.
* `decode_encode`: every snapshot is read back as this state, whatever limits it was taken with.
-/

namespace TemplateScan.Snapshot

open Text Markup Mustache

/-! ## What is written -/

/-- The delimiters with their texts cut. -/
def clippedDelimiters (d : Delimiters) : Delimiters where
  opening := clippedDelimiter d.opening
  closing := clippedDelimiter d.closing
  previousClosing := clippedDelimiter d.previousClosing

/-- The bytes of the delimiters, cut, without their lengths. -/
def delimiterSize (d : Delimiters) : Nat :=
  clippedLength d.opening.customText + clippedLength d.closing.customText +
    clippedLength d.previousClosing.customText

/-- The bytes that are not for entries: headers and lengths, and the delimiters if there is room for
all of them. -/
def reserved (limit : Nat) (d : Delimiters) : Nat :=
  if fixedBytes + delimiterSize d ≤ limit then fixedBytes + delimiterSize d else fixedBytes

/-- The tags, from the outermost on, whose entries are written. -/
def keptTags (limit : Nat) (s : ScanState) : List Tag :=
  longestFitting tagSize (limit - reserved limit s.delimiters) (s.tags.toList.take maxScopes)

/-- The sections, from the outermost on, whose entries are written into what the tags leave. -/
def keptSections (limit : Nat) (s : ScanState) : List String :=
  longestFitting sectionSize
    (limit - reserved limit s.delimiters - totalSize tagSize (keptTags limit s))
    (s.sections.toList.take maxScopes)

theorem delimiterLength_eq (d : Delimiters) : delimiterLength d = delimiterSize d := by
  simp [delimiterLength, delimiterTexts, delimiterSize, clippedLength_eq, Nat.add_assoc]

theorem delimiterSize_default : delimiterSize {} = 0 := by
  decide

theorem fitting_eq {α : Type} {entryOf : α → List UInt8} {size : α → Nat}
    (hsize : ∀ scope, (entryOf scope).length = size scope) (budget : Nat) (scopes : Nesting α) :
    fitting entryOf budget scopes =
      ((longestFitting size budget (scopes.toList.take maxScopes)).map entryOf,
        budget - totalSize size (longestFitting size budget (scopes.toList.take maxScopes))) := by
  rw [fitting, fill_eq_longestFitting hsize, List.reverse_nil, List.nil_append]

/-- The delimiters that are written: all of them or none. -/
def keptDelimiters (limit : Nat) (d : Delimiters) : Delimiters :=
  if fixedBytes + delimiterSize d ≤ limit then d else {}

theorem reserved_eq (limit : Nat) (d : Delimiters) :
    fixedBytes + delimiterLength (keptDelimiters limit d) = reserved limit d := by
  rw [delimiterLength_eq, keptDelimiters, reserved]
  split
  · rfl
  · rw [delimiterSize_default, Nat.add_zero]

/-- A snapshot is made of the scopes and delimiters kept. -/
theorem encodeWithin_eq (limit : Nat) (s : ScanState) :
    encodeWithin limit s =
      { bytes := nestingBytes s.tags.size ((keptTags limit s).map tagBytes) ++
          nestingBytes s.sections.size ((keptSections limit s).map nameBytes) ++
          delimiterBytes (keptDelimiters limit s.delimiters)
        droppedTags := s.tags.size - (keptTags limit s).length
        droppedSections := s.sections.size - (keptSections limit s).length
        delimitersDropped := limit < fixedBytes + delimiterSize s.delimiters } := by
  -- the writer asks whether the delimiters exceed the limit, here it is whether they fit
  have hkept : (if limit < fixedBytes + delimiterSize s.delimiters then {} else s.delimiters) =
      keptDelimiters limit s.delimiters := by
    rw [keptDelimiters, ← ite_not]
    simp only [Nat.not_lt]
  simp only [encodeWithin, delimiterLength_eq s.delimiters, hkept, reserved_eq,
    fitting_eq length_tagBytes, fitting_eq length_nameBytes, List.length_map, keptTags,
    keptSections]

/-! ## What is read back -/

/-- What comes back of a state from its snapshot in at most `limit` bytes: the scopes kept, with
their names cut, and placeholders for the others as far as a snapshot can tell of them; the
delimiters, cut, if there was room for them. -/
def restored (limit : Nat) (s : ScanState) : ScanState where
  tags := .ofList ((keptTags limit s).map clippedTag ++
    List.replicate (min s.tags.size maxScopes - (keptTags limit s).length) .placeholder)
  sections := .ofList ((keptSections limit s).map clippedName ++
    List.replicate (min s.sections.size maxScopes - (keptSections limit s).length) "")
  delimiters :=
    if fixedBytes + delimiterSize s.delimiters ≤ limit then clippedDelimiters s.delimiters else {}

theorem length_kept_le {α : Type} (size : α → Nat) (budget : Nat) (scopes : Nesting α) :
    (longestFitting size budget (scopes.toList.take maxScopes)).length ≤
      min scopes.size maxScopes := by
  rw [← Nesting.length_toList]
  exact length_longestFitting_take_le _ _ _ _

/-- The tags restored are read from the entries of the tags kept. -/
theorem takeNesting_tags (limit : Nat) (s : ScanState) (rest : List UInt8) :
    takeNesting .placeholder takeTag?
        (some (nestingBytes s.tags.size ((keptTags limit s).map tagBytes) ++ rest)) =
      ((restored limit s).tags, some rest) :=
  takeNesting_nestingBytes .placeholder takeTag?_tagBytes (length_kept_le _ _ _) rest

/-- The sections restored are read from the entries of the sections kept. -/
theorem takeNesting_sections (limit : Nat) (s : ScanState) (rest : List UInt8) :
    takeNesting "" takeName?
        (some (nestingBytes s.sections.size ((keptSections limit s).map nameBytes) ++ rest)) =
      ((restored limit s).sections, some rest) :=
  takeNesting_nestingBytes "" takeName?_nameBytes (length_kept_le _ _ _) rest

theorem delimiterBytes_eq (d : Delimiters) :
    delimiterBytes d = nameBytes d.opening.customText ++
      (nameBytes d.closing.customText ++ (nameBytes d.previousClosing.customText ++ [])) := by
  simp [delimiterBytes, delimiterTexts]

theorem clippedDelimiters_kept (limit : Nat) (s : ScanState) :
    clippedDelimiters (keptDelimiters limit s.delimiters) = (restored limit s).delimiters := by
  rw [keptDelimiters, restored]
  split
  · rfl
  · rfl

/-- A snapshot that has room for the headers is read to its end, and gives the state restored,
whatever stands behind it. -/
theorem decode_encodeWithin_append {limit reading : Nat} {s : ScanState} (behind : List UInt8)
    (hreading : (encodeWithin limit s).bytes.length ≤ reading) :
    decode reading ((encodeWithin limit s).bytes ++ behind) =
      { state := restored limit s, isCorrupt := false } := by
  have htake : ((encodeWithin limit s).bytes ++ behind).take reading =
      (encodeWithin limit s).bytes ++
        behind.take (reading - (encodeWithin limit s).bytes.length) := by
    rw [List.take_append, List.take_of_length_le hreading]
  have hnonempty : ((encodeWithin limit s).bytes ++ behind).isEmpty = false := by
    rw [encodeWithin_eq]
    simp [nestingBytes, numberBytes]
  -- the reader takes the parts off one after the other, as the writer has put them together
  rw [decode, hnonempty, htake, encodeWithin_eq, delimiterBytes_eq]
  simp only [Bool.false_eq_true, if_false, List.append_assoc, takeNesting_tags,
    takeNesting_sections, takeDelimiter_nameBytes, Option.isNone_some]
  have hdelimiters := clippedDelimiters_kept limit s
  rw [clippedDelimiters] at hdelimiters
  rw [hdelimiters]

theorem decode_encodeWithin {limit reading : Nat} {s : ScanState}
    (hreading : (encodeWithin limit s).bytes.length ≤ reading) :
    decode reading (encodeWithin limit s).bytes =
      { state := restored limit s, isCorrupt := false } := by
  have happend := decode_encodeWithin_append [] hreading
  rwa [List.append_nil] at happend

/-! ## Every limit -/

theorem encode_of_le {capacity room : Nat} (s : ScanState)
    (hroom : fixedBytes ≤ min room capacity) :
    encode capacity room s = encodeWithin (min room capacity) s := by
  simp [encode, Nat.not_lt.mpr hroom]

/-- Without room for the headers nothing is kept. -/
theorem kept_eq_nil_of_lt {limit : Nat} (s : ScanState) (hlimit : limit < fixedBytes) :
    keptTags limit s = [] ∧ keptSections limit s = [] := by
  -- there is no budget at all, and every entry takes a byte at least
  have hnone : limit - reserved limit s.delimiters = 0 := by
    rw [reserved]
    split <;> omega
  have htags : keptTags limit s = [] := by
    rw [keptTags, hnone]
    cases s.tags.toList.take maxScopes with
    | nil => exact longestFitting_nil
    | cons tag later => exact longestFitting_cons_of_lt (tagSize_pos tag)
  refine ⟨htags, ?_⟩
  rw [keptSections, hnone, htags]
  cases s.sections.toList.take maxScopes with
  | nil => exact longestFitting_nil
  | cons name later => exact longestFitting_cons_of_lt (sectionSize_pos name)

theorem droppedTags_encode (capacity room : Nat) (s : ScanState) :
    (encode capacity room s).droppedTags =
      s.tags.size - (keptTags (min room capacity) s).length := by
  by_cases hlimit : min room capacity < fixedBytes
  · rw [(kept_eq_nil_of_lt s hlimit).1]
    simp [encode, hlimit]
  · rw [encode_of_le s (Nat.le_of_not_lt hlimit), encodeWithin_eq]

theorem droppedSections_encode (capacity room : Nat) (s : ScanState) :
    (encode capacity room s).droppedSections =
      s.sections.size - (keptSections (min room capacity) s).length := by
  by_cases hlimit : min room capacity < fixedBytes
  · rw [(kept_eq_nil_of_lt s hlimit).2]
    simp [encode, hlimit]
  · rw [encode_of_le s (Nat.le_of_not_lt hlimit), encodeWithin_eq]

/-- **Exact round trip of snapshots.**  Below the room that the headers take a snapshot is empty and
read back as the fresh state.  From there on, whatever the limits and however many bytes more are
allowed to the reader, it is read back as the state restored; and the account it comes with counts
the scopes that were not kept. -/
theorem decode_encode (capacity room reading : Nat) (s : ScanState)
    (hreading : (encode capacity room s).bytes.length ≤ reading) :
    (min room capacity < fixedBytes →
      (encode capacity room s).bytes = [] ∧
        (decode reading (encode capacity room s).bytes).state = .fresh) ∧
    (fixedBytes ≤ min room capacity →
      (decode reading (encode capacity room s).bytes).state = restored (min room capacity) s) ∧
    (encode capacity room s).droppedTags = s.tags.size - (keptTags (min room capacity) s).length ∧
    (encode capacity room s).droppedSections =
      s.sections.size - (keptSections (min room capacity) s).length := by
  refine ⟨?_, ?_, droppedTags_encode capacity room s, droppedSections_encode capacity room s⟩
  · intro hlimit
    have hbytes : (encode capacity room s).bytes = [] := by simp [encode, hlimit]
    refine ⟨hbytes, ?_⟩
    rw [hbytes]
    rfl
  · intro hlimit
    rw [encode_of_le s hlimit] at hreading ⊢
    rw [decode_encodeWithin hreading]

/-- A state with more open than fourteen bytes can tell of. -/
def crowded : ScanState where
  tags := .ofList [.known .div, .custom "X-A", .custom "Y"]
  sections := .ofList ["a"]
  delimiters := { opening := .ofText "<%" }

/-- Fourteen bytes hold the opening delimiter and one tag of `crowded`. -/
theorem decode_encode_crowded :
    (encode 40 14 crowded).bytes.length ≤ 14 ∧
      (decode 14 (encode 40 14 crowded).bytes).state =
        { tags := .ofList [.known .div, .placeholder, .placeholder]
          sections := .ofList [""]
          delimiters := { opening := .ofText "<%" } } ∧
      (encode 40 14 crowded).droppedTags = 2 ∧ (encode 40 14 crowded).droppedSections = 1 := by
  have hreading : (encode 40 14 crowded).bytes.length ≤ 14 := by decide +kernel
  obtain ⟨-, hstate, htags, hsections⟩ := decode_encode 40 14 14 crowded hreading
  refine ⟨hreading, ?_, ?_, ?_⟩
  · rw [hstate (by decide)]
    decide +kernel
  · rw [htags]
    decide +kernel
  · rw [hsections]
    decide +kernel

end TemplateScan.Snapshot
