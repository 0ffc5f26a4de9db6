import TemplateScan.Proofs.Snapshot.Clean
import TemplateScan.Proofs.Snapshot.Clipping

/-!
# The capacity that a state takes

A snapshot takes in its entries one after the other, each if what is left of the budget allows it.
Whether it leaves nothing out can be told without going through the entries: it depends only on
whether the size of the state exceeds the limit.  And a snapshot that leaves nothing out does not
tell which limit it was taken with.

* `hasRoom_of_isLossless`: where nothing is left out there is room for the state.
* `isLossless_encode_iff`: a snapshot leaves nothing out if and only if there is room for the state,
  or the state is fresh, and all these snapshots consist of the same bytes.
-/

namespace TemplateScan.Snapshot

open Text Markup Mustache

theorem isFresh_iff {s : ScanState} : s.isFresh = true ↔ s = .fresh := by
  constructor
  · intro hfresh
    simp only [ScanState.isFresh, Bool.and_eq_true, beq_iff_eq, Nesting.isEmpty,
      List.isEmpty_iff] at hfresh
    obtain ⟨⟨htags, hsections⟩, hdelimiters⟩ := hfresh
    exact ScanState.ext (congrArg Nesting.mk htags) (congrArg Nesting.mk hsections) hdelimiters
  · rintro rfl
    decide

theorem storedSize_fresh : storedSize .fresh = fixedBytes := by
  decide

/-- Where there is room for the headers, there is room for the fresh state. -/
theorem hasRoom_fresh {limit : Nat} (hlimit : fixedBytes ≤ limit) : HasRoom limit .fresh where
  tagCount := Nat.zero_le _
  sectionCount := Nat.zero_le _
  size := by
    rw [storedSize_fresh]
    exact hlimit

section Room

variable {limit : Nat} {s : ScanState}

/-- Every state takes the room for the headers. -/
theorem HasRoom.fixedBytes_le (hroom : HasRoom limit s) : fixedBytes ≤ limit :=
  Nat.le_trans (Nat.le_add_right _ _) hroom.delimiters_fit

/-- If a snapshot leaves nothing out, each part of the account is below the limit by what the parts
before it take. -/
theorem hasRoom_of_isLossless (hlossless : (encodeWithin limit s).isLossless = true) :
    HasRoom limit s := by
  rw [isLossless_iff, encodeWithin_eq] at hlossless
  obtain ⟨hdroppedTags, hdroppedSections, hdelimiters⟩ := hlossless
  have hroom : fixedBytes + delimiterSize s.delimiters ≤ limit := by simpa using hdelimiters
  have hreserved : reserved limit s.delimiters = fixedBytes + delimiterSize s.delimiters := by
    rw [reserved, if_pos hroom]
  -- the scopes kept are all scopes, and the entries of those kept are within the budget
  obtain ⟨htags, htagCount⟩ := longestFitting_take_eq hdroppedTags
  obtain ⟨hsections, hsectionCount⟩ := longestFitting_take_eq hdroppedSections
  have htagSize : totalSize tagSize (keptTags limit s) ≤ limit - reserved limit s.delimiters :=
    totalSize_longestFitting_le _ _ _
  have hsectionSize : totalSize sectionSize (keptSections limit s) ≤
      limit - reserved limit s.delimiters - totalSize tagSize (keptTags limit s) :=
    totalSize_longestFitting_le _ _ _
  have hkeptTags : keptTags limit s = s.tags.toList := htags
  have hkeptSections : keptSections limit s = s.sections.toList := hsections
  rw [hkeptSections, hkeptTags, hreserved] at hsectionSize
  rw [hkeptTags, hreserved] at htagSize
  refine ⟨htagCount, hsectionCount, ?_⟩
  rw [storedSize]
  omega

/-- The account of a snapshot that has room for the headers, as one comparison. -/
theorem isLossless_encodeWithin_iff : (encodeWithin limit s).isLossless = true ↔ HasRoom limit s :=
  ⟨hasRoom_of_isLossless, HasRoom.isLossless_encodeWithin⟩

end Room

section Encode

variable {capacity room : Nat} {s : ScanState}

theorem HasRoom.bytes_encode (hroom : HasRoom (min room capacity) s) :
    (encode capacity room s).bytes = wholeBytes s := by
  rw [encode_of_le s hroom.fixedBytes_le, hroom.bytes_encodeWithin]

/-- **A snapshot is lossless exactly if the state fits, and then the capacity does not show.**
Whatever the state, the capacity and the room, a snapshot leaves nothing out by its account if and
only if the state is fresh or both nestings can be counted and the size of the state does not exceed
the limit.  In the second case the snapshot has just this size, and it consists of the same bytes as
with any other limits that the state does not exceed. -/
theorem isLossless_encode_iff (capacity room : Nat) (s : ScanState) :
    ((encode capacity room s).isLossless = true ↔
      s.isFresh = true ∨ HasRoom (min room capacity) s) ∧
    (HasRoom (min room capacity) s →
      (encode capacity room s).bytes.length = storedSize s ∧
      ∀ capacity' room', HasRoom (min room' capacity') s →
        (encode capacity' room' s).bytes = (encode capacity room s).bytes) := by
  refine ⟨?_, ?_⟩
  · rw [isFresh_iff]
    by_cases hlimit : min room capacity < fixedBytes
    · -- nothing is written, so there must be nothing to write
      constructor
      · intro hlossless
        exact .inl (eq_fresh_of_isLossless hlimit hlossless)
      · rintro (rfl | hroom)
        · simp [encode, hlimit, Encoding.isLossless, ScanState.fresh, Nesting.size, Nesting.empty]
        · exact absurd hroom.fixedBytes_le (Nat.not_le_of_gt hlimit)
    · have hheaders := Nat.le_of_not_lt hlimit
      rw [encode_of_le s hheaders, isLossless_encodeWithin_iff]
      constructor
      · exact .inr
      · rintro (rfl | hroom)
        · exact hasRoom_fresh hheaders
        · exact hroom
  · intro hroom
    refine ⟨?_, ?_⟩
    · rw [hroom.bytes_encode, hroom.length_wholeBytes]
    · intro capacity' room' hroom'
      rw [hroom'.bytes_encode, hroom.bytes_encode]

end Encode

/-- All of `crowded` takes twenty-four bytes, and with one byte less something is left out. -/
theorem isLossless_encode_crowded :
    HasRoom (min 64 24) crowded ∧ (encode 24 64 crowded).bytes.length = 24 ∧
      (encode 100 40 crowded).bytes = (encode 24 64 crowded).bytes ∧
      (encode 23 64 crowded).isLossless = false := by
  have hsize : storedSize crowded = 24 := by decide +kernel
  have hroom {limit : Nat} (hlimit : 24 ≤ limit) : HasRoom limit crowded :=
    ⟨by decide, by decide, by rw [hsize]; exact hlimit⟩
  obtain ⟨hlength, hsame⟩ := (isLossless_encode_iff 24 64 crowded).2 (hroom (by decide))
  refine ⟨hroom (by decide), ?_, hsame 100 40 (hroom (by decide)), ?_⟩
  · rw [hlength, hsize]
  · rw [← Bool.not_eq_true, (isLossless_encode_iff 23 64 crowded).1]
    rintro (hfresh | hroom)
    · exact absurd hfresh (by decide)
    · have hle := hroom.size
      rw [hsize] at hle
      exact absurd hle (by decide)

end TemplateScan.Snapshot
