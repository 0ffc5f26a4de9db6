import TemplateScan.Proofs.Snapshot.Lossless

/-!
# Repeated snapshots

A state that has come back from a snapshot has its names cut already, and the scopes that were left
out have become placeholders.  A second snapshot of the same capacity may have room for some of the
placeholders, but they come back as placeholders either way.  So what the first snapshot has left of
the tags and the delimiters stays, however often the state goes through one.  Only the sections may
lose more, as the placeholders for tags take from the budget that both nestings share.

* `roundTrip`: the state that comes back from a snapshot.
* `longestFitting_restored`: scopes that have come back once come back as they are.
* `roundTrip_roundTrip`: what a second snapshot does to a state.
-/

namespace TemplateScan.Snapshot

open Text Markup Mustache

/-- The state that comes back from its snapshot of at most `capacity` bytes. -/
def roundTrip (capacity : Nat) (s : ScanState) : ScanState :=
  (decode capacity (encode capacity capacity s).bytes).state

/-- Without room for the headers nothing comes back. -/
theorem roundTrip_of_lt {capacity : Nat} (s : ScanState) (hcapacity : capacity < fixedBytes) :
    roundTrip capacity s = .fresh := by
  have hbytes : (encode capacity capacity s).bytes = [] := by simp [encode, hcapacity]
  rw [roundTrip, hbytes]
  rfl

theorem roundTrip_of_le {capacity : Nat} (s : ScanState) (hcapacity : fixedBytes ≤ capacity) :
    roundTrip capacity s = restored capacity s := by
  rw [roundTrip, encode_of_le s (by rwa [Nat.min_self]), Nat.min_self,
    decode_encodeWithin (length_encodeWithin_le s hcapacity)]

/-! ## What has been cut is not cut again -/

theorem clippedName_clippedName (name : String) :
    clippedName (clippedName name) = clippedName name := by
  refine clippedName_eq_self ?_
  rw [toList_clippedName]
  exact byteLength_clip_le name

theorem clippedLength_clippedName (name : String) :
    clippedLength (clippedName name) = clippedLength name := by
  rw [clippedLength, clippedLength, clippedName_clippedName]

theorem clippedTag_clippedTag (tag : Tag) : clippedTag (clippedTag tag) = clippedTag tag := by
  cases tag with
  | known e => rfl
  | custom name => simp only [clippedTag, clippedName_clippedName]

theorem tagSize_clippedTag (tag : Tag) : tagSize (clippedTag tag) = tagSize tag := by
  cases tag with
  | known e => rfl
  | custom name => simp only [clippedTag, tagSize, clippedLength_clippedName]

theorem sectionSize_clippedName (name : String) :
    sectionSize (clippedName name) = sectionSize name := by
  rw [sectionSize, sectionSize, clippedLength_clippedName]

theorem customText_clippedDelimiter (d : Delimiter) :
    (clippedDelimiter d).customText = clippedName d.customText := by
  rw [clippedDelimiter, Delimiter.customText_ofText]

theorem clippedDelimiters_clippedDelimiters (d : Delimiters) :
    clippedDelimiters (clippedDelimiters d) = clippedDelimiters d := by
  have honce (d : Delimiter) : clippedDelimiter (clippedDelimiter d) = clippedDelimiter d := by
    rw [clippedDelimiter, customText_clippedDelimiter, clippedName_clippedName, clippedDelimiter]
  simp only [clippedDelimiters, honce]

theorem delimiterSize_clippedDelimiters (d : Delimiters) :
    delimiterSize (clippedDelimiters d) = delimiterSize d := by
  simp only [delimiterSize, clippedDelimiters, customText_clippedDelimiter,
    clippedLength_clippedName]

/-! ## Nestings that have come back -/

section Nesting

variable {α : Type} {size : α → Nat} {clipped : α → α}

/-- Scopes kept, with their names cut, and placeholders behind them come back as they are from any
budget that the scopes kept are within: how many of the placeholders have entries cannot be told. -/
theorem longestFitting_restored {placeholder : α} {budget n : Nat} {kept scopes : List α}
    (hscopes : scopes = kept.map clipped ++ List.replicate n placeholder)
    (hsize : ∀ x, size (clipped x) = size x) (honce : ∀ x, clipped (clipped x) = clipped x)
    (hplaceholder : clipped placeholder = placeholder) (hfits : totalSize size kept ≤ budget) :
    (longestFitting size budget scopes).map clipped ++
      List.replicate (scopes.length - (longestFitting size budget scopes).length) placeholder =
        scopes := by
  -- the scopes kept before are kept again, and some placeholders may be kept behind them
  have hbegins : kept.map clipped <+: scopes := by
    rw [hscopes]
    exact List.prefix_append _ _
  have hagain : kept.map clipped <+: longestFitting size budget scopes :=
    isPrefix_longestFitting hbegins (by rwa [totalSize_map hsize])
  obtain ⟨more, hmore⟩ := hagain
  have hplaceholders : more <+: List.replicate n placeholder := by
    have hpre := longestFitting_isPrefix size budget scopes
    rw [← hmore, hscopes] at hpre
    exact (List.prefix_append_right_inj _).mp hpre
  obtain ⟨hfew, hmoreEq⟩ := List.prefix_replicate_iff.mp hplaceholders
  rw [← hmore, hmoreEq]
  simp only [hscopes, List.map_append, List.map_map, List.map_replicate, hplaceholder,
    List.length_append, List.length_map, List.length_replicate, List.append_assoc,
    List.replicate_append_replicate]
  have hcut : clipped ∘ clipped = clipped := funext honce
  rw [hcut, show more.length + (kept.length + n - (kept.length + more.length)) = n by omega]

theorem eq_of_toList_eq {scopes scopes' : Nesting α} (hlists : scopes.toList = scopes'.toList) :
    scopes = scopes' := by
  rw [← Nesting.ofList_toList scopes, hlists, Nesting.ofList_toList]

end Nesting

/-! ## States that have come back -/

section Restored

variable (limit : Nat) (s : ScanState)

theorem toList_restored_tags :
    (restored limit s).tags.toList = (keptTags limit s).map clippedTag ++
      List.replicate (min s.tags.size maxScopes - (keptTags limit s).length) .placeholder := by
  rw [restored, Nesting.toList_ofList]

theorem toList_restored_sections :
    (restored limit s).sections.toList = (keptSections limit s).map clippedName ++
      List.replicate (min s.sections.size maxScopes - (keptSections limit s).length) "" := by
  rw [restored, Nesting.toList_ofList]

/-- Of both nestings, all scopes that a snapshot can tell of come back, be it as placeholders. -/
theorem size_restored_tags : (restored limit s).tags.size = min s.tags.size maxScopes := by
  have hkept : (keptTags limit s).length ≤ min s.tags.size maxScopes :=
    length_kept_le _ _ _
  rw [← Nesting.length_toList, toList_restored_tags, List.length_append, List.length_map,
    List.length_replicate]
  omega

theorem size_restored_sections :
    (restored limit s).sections.size = min s.sections.size maxScopes := by
  have hkept : (keptSections limit s).length ≤ min s.sections.size maxScopes :=
    length_kept_le _ _ _
  rw [← Nesting.length_toList, toList_restored_sections, List.length_append, List.length_map,
    List.length_replicate]
  omega

theorem delimiters_restored_restored :
    (restored limit (restored limit s)).delimiters = (restored limit s).delimiters := by
  by_cases hroom : fixedBytes + delimiterSize s.delimiters ≤ limit
  · have hdelimiters : (restored limit s).delimiters = clippedDelimiters s.delimiters := by
      rw [restored, if_pos hroom]
    rw [restored, hdelimiters, delimiterSize_clippedDelimiters, if_pos hroom,
      clippedDelimiters_clippedDelimiters]
  · have hdelimiters : (restored limit s).delimiters = {} := by
      rw [restored, if_neg hroom]
    rw [restored, hdelimiters, ite_eq_right_iff]
    intro _
    decide

/-- Delimiters that were written take as much again, and those that were left out take nothing. -/
theorem reserved_restored :
    reserved limit (restored limit s).delimiters = reserved limit s.delimiters := by
  by_cases hroom : fixedBytes + delimiterSize s.delimiters ≤ limit
  · have hdelimiters : (restored limit s).delimiters = clippedDelimiters s.delimiters := by
      rw [restored, if_pos hroom]
    rw [reserved, reserved, hdelimiters, delimiterSize_clippedDelimiters]
  · have hdelimiters : (restored limit s).delimiters = {} := by
      rw [restored, if_neg hroom]
    rw [reserved, reserved, hdelimiters, delimiterSize_default, Nat.add_zero, if_neg hroom,
      ite_self]

/-- A snapshot can tell of all tags that have come back from one. -/
theorem min_size_restored_tags :
    min (restored limit s).tags.size maxScopes = (restored limit s).tags.size := by
  rw [size_restored_tags, Nat.min_assoc, Nat.min_self]

theorem min_size_restored_sections :
    min (restored limit s).sections.size maxScopes = (restored limit s).sections.size := by
  rw [size_restored_sections, Nat.min_assoc, Nat.min_self]

theorem keptTags_restored :
    keptTags limit (restored limit s) = longestFitting tagSize
      (limit - reserved limit s.delimiters) (restored limit s).tags.toList := by
  have hfew : (restored limit s).tags.toList.length ≤ maxScopes := by
    rw [Nesting.length_toList, size_restored_tags]
    exact Nat.min_le_right _ _
  rw [keptTags, reserved_restored, List.take_of_length_le hfew]

theorem keptSections_restored :
    keptSections limit (restored limit s) = longestFitting sectionSize
      (limit - reserved limit s.delimiters - totalSize tagSize (keptTags limit (restored limit s)))
      (restored limit s).sections.toList := by
  have hfew : (restored limit s).sections.toList.length ≤ maxScopes := by
    rw [Nesting.length_toList, size_restored_sections]
    exact Nat.min_le_right _ _
  rw [keptSections, reserved_restored, List.take_of_length_le hfew]

theorem tags_restored_restored :
    (restored limit (restored limit s)).tags = (restored limit s).tags := by
  have hkept : totalSize tagSize (keptTags limit s) ≤ limit - reserved limit s.delimiters :=
    totalSize_longestFitting_le _ _ _
  have hback := longestFitting_restored (toList_restored_tags limit s) tagSize_clippedTag
    clippedTag_clippedTag (by decide) hkept
  rw [← keptTags_restored, Nesting.length_toList] at hback
  refine eq_of_toList_eq ?_
  rw [toList_restored_tags, min_size_restored_tags, hback]

/-- If all tags were kept, they are kept again, and take as much. -/
theorem totalSize_keptTags_restored (hall : min s.tags.size maxScopes ≤ (keptTags limit s).length) :
    totalSize tagSize (keptTags limit (restored limit s)) =
      totalSize tagSize (keptTags limit s) := by
  have hkept : totalSize tagSize (keptTags limit s) ≤ limit - reserved limit s.delimiters :=
    totalSize_longestFitting_le _ _ _
  have htags : (restored limit s).tags.toList = (keptTags limit s).map clippedTag := by
    rw [toList_restored_tags, Nat.sub_eq_zero_of_le hall, List.replicate_zero, List.append_nil]
  have hsize := totalSize_map tagSize_clippedTag (keptTags limit s)
  rw [keptTags_restored, htags, longestFitting_eq_self (by rwa [hsize]), hsize]

/-- Unless placeholders for tags take from the budget, the sections stay as well. -/
theorem sections_restored_restored
    (hall : min s.tags.size maxScopes ≤ (keptTags limit s).length) :
    (restored limit (restored limit s)).sections = (restored limit s).sections := by
  have hkept : totalSize sectionSize (keptSections limit s) ≤
      limit - reserved limit s.delimiters -
        totalSize tagSize (keptTags limit (restored limit s)) := by
    rw [totalSize_keptTags_restored limit s hall]
    exact totalSize_longestFitting_le _ _ _
  have hback := longestFitting_restored (toList_restored_sections limit s)
    sectionSize_clippedName clippedName_clippedName (by decide) hkept
  rw [← keptSections_restored, Nesting.length_toList] at hback
  refine eq_of_toList_eq ?_
  rw [toList_restored_sections, min_size_restored_sections, hback]

end Restored

/-- **Repeated snapshots do not take more and more away.**  Whatever the state and the capacity, the
tags and the delimiters that have come back from a snapshot come back from the next one as they are;
and if the first one left out no tags by its account, the whole state does. -/
theorem roundTrip_roundTrip (capacity : Nat) (s : ScanState) :
    (roundTrip capacity (roundTrip capacity s)).tags = (roundTrip capacity s).tags ∧
    (roundTrip capacity (roundTrip capacity s)).delimiters = (roundTrip capacity s).delimiters ∧
    ((encode capacity capacity s).droppedTags = 0 →
      roundTrip capacity (roundTrip capacity s) = roundTrip capacity s) := by
  rcases Nat.lt_or_ge capacity fixedBytes with hsmall | hheaders
  · -- nothing has come back the first time either
    simp only [roundTrip_of_lt _ hsmall, true_and, implies_true]
  · simp only [roundTrip_of_le _ hheaders]
    refine ⟨tags_restored_restored _ _, delimiters_restored_restored _ _, ?_⟩
    intro hdropped
    rw [droppedTags_encode, Nat.min_self] at hdropped
    have hall : min s.tags.size maxScopes ≤ (keptTags capacity s).length :=
      Nat.le_trans (Nat.min_le_left _ _) (Nat.le_of_sub_eq_zero hdropped)
    exact ScanState.ext (tags_restored_restored _ _) (sections_restored_restored _ _ hall)
      (delimiters_restored_restored _ _)

/-- Twenty-three bytes leave out the section of `crowded`.  Its placeholder has an entry in the
second snapshot, and comes back all the same. -/
theorem roundTrip_roundTrip_crowded :
    (encode 23 23 crowded).droppedTags = 0 ∧ (encode 23 23 crowded).droppedSections = 1 ∧
      roundTrip 23 (roundTrip 23 crowded) = roundTrip 23 crowded ∧
      (roundTrip 23 crowded).sections.toList = [""] := by
  have hdropped : (encode 23 23 crowded).droppedTags = 0 := by decide +kernel
  exact ⟨hdropped, by decide +kernel, (roundTrip_roundTrip 23 crowded).2.2 hdropped,
    by decide +kernel⟩

/-- Where a tag was left out, its placeholder may take the bytes of a section that was kept. -/
example :
    let s : ScanState := { tags := .ofList [.custom "X-LONGER"], sections := .ofList ["a"] }
    (roundTrip 14 s).sections.toList = ["a"] ∧
      (roundTrip 14 (roundTrip 14 s)).sections.toList = [""] := by
  decide +kernel

end TemplateScan.Snapshot
