import TemplateScan.Proofs.Replay
import TemplateScan.Proofs.Snapshot.Lossless

/-!
# What a lossless snapshot gives back

The account of a snapshot counts the scopes left out and says whether the delimiters are left out.
It does not say whether a name is cut.  So a snapshot that leaves nothing out by its account gives
back the state with its names cut to 255 bytes, and the state itself only if no name is longer.

* `clippedState`: a state with its names cut, `HasShortNames`: a state that this leaves as it is.
* `decode_encode_of_isLossless`: what comes back from a snapshot that leaves nothing out.
* `longNamed_isLossless`: a state that scanning leads to and that does not come back.
-/

namespace TemplateScan.Snapshot

open Text Markup Mustache

/-! ## States with their names cut -/

/-- The state with the names of its scopes and the texts of its delimiters cut. -/
def clippedState (s : ScanState) : ScanState where
  tags := .ofList (s.tags.toList.map clippedTag)
  sections := .ofList (s.sections.toList.map clippedName)
  delimiters := clippedDelimiters s.delimiters

/-- No name of a scope and no text of a delimiter is too long for a snapshot. -/
structure HasShortNames (s : ScanState) : Prop where
  tagNames : ∀ name, .custom name ∈ s.tags.toList → Utf8.byteLength name.toList ≤ maxNameBytes
  sectionNames : ∀ name ∈ s.sections.toList, Utf8.byteLength name.toList ≤ maxNameBytes
  delimiterTexts : ∀ text ∈ delimiterTexts s.delimiters, Utf8.byteLength text.toList ≤ maxNameBytes

theorem clippedName_eq_self_iff {name : String} :
    clippedName name = name ↔ Utf8.byteLength name.toList ≤ maxNameBytes := by
  constructor
  · intro hname
    have hle := byteLength_clip_le name
    rwa [← toList_clippedName, hname] at hle
  · exact clippedName_eq_self

theorem clippedTag_eq_self_iff {tag : Tag} :
    clippedTag tag = tag ↔
      ∀ name, tag = .custom name → Utf8.byteLength name.toList ≤ maxNameBytes := by
  cases tag with
  | known e => simp [clippedTag]
  | custom name => simp [clippedTag, clippedName_eq_self_iff]

theorem clippedDelimiter_eq_self_iff {d : Delimiter} :
    clippedDelimiter d = d ↔ Utf8.byteLength d.customText.toList ≤ maxNameBytes := by
  -- a delimiter is known by the text that was set
  rw [← clippedName_eq_self_iff, clippedDelimiter]
  constructor
  · intro hd
    rw [← Delimiter.customText_ofText (clippedName d.customText), hd]
  · intro htext
    rw [htext, Delimiter.ofText_customText]

/-- A nesting is left as it is by what leaves each of its scopes as it is, and by nothing else. -/
theorem ofList_map_eq_self_iff {α : Type} {f : α → α} {scopes : Nesting α} :
    Nesting.ofList (scopes.toList.map f) = scopes ↔ ∀ scope ∈ scopes.toList, f scope = scope := by
  have hlists : scopes.toList.map f = scopes.toList ↔ ∀ scope ∈ scopes.toList, f scope = scope := by
    conv_lhs => rw [← List.map_id scopes.toList, List.map_map, List.map_eq_map_iff]
    rfl
  rw [← hlists]
  constructor
  · intro heq
    rw [← Nesting.toList_ofList (scopes.toList.map f), heq]
  · intro heq
    rw [heq, Nesting.ofList_toList]

/-- Cutting the names leaves a state as it is if and only if no name is too long. -/
theorem clippedState_eq_self_iff {s : ScanState} : clippedState s = s ↔ HasShortNames s := by
  have htags : (clippedState s).tags = s.tags ↔
      ∀ name, .custom name ∈ s.tags.toList → Utf8.byteLength name.toList ≤ maxNameBytes := by
    rw [clippedState, ofList_map_eq_self_iff]
    constructor
    · intro hall name hname
      exact clippedTag_eq_self_iff.mp (hall _ hname) name rfl
    · intro hall tag htag
      exact clippedTag_eq_self_iff.mpr fun name hname => hall name (hname ▸ htag)
  have hsections : (clippedState s).sections = s.sections ↔
      ∀ name ∈ s.sections.toList, Utf8.byteLength name.toList ≤ maxNameBytes := by
    rw [clippedState, ofList_map_eq_self_iff]
    simp only [clippedName_eq_self_iff]
  have hdelimiters : (clippedState s).delimiters = s.delimiters ↔
      ∀ text ∈ delimiterTexts s.delimiters, Utf8.byteLength text.toList ≤ maxNameBytes := by
    rw [clippedState, clippedDelimiters]
    cases s.delimiters
    simp [delimiterTexts, clippedDelimiter_eq_self_iff]
  constructor
  · intro heq
    exact ⟨htags.mp (congrArg _ heq), hsections.mp (congrArg _ heq),
      hdelimiters.mp (congrArg _ heq)⟩
  · rintro ⟨htagNames, hsectionNames, htexts⟩
    exact ScanState.ext (htags.mpr htagNames) (hsections.mpr hsectionNames) (hdelimiters.mpr htexts)

/-! ## Snapshots that leave nothing out -/

theorem isLossless_iff {e : Encoding} :
    e.isLossless = true ↔
      e.droppedTags = 0 ∧ e.droppedSections = 0 ∧ e.delimitersDropped = false := by
  simp [Encoding.isLossless, and_assoc]

/-- If none of the scopes is left out, those that are kept are all of them, and a snapshot can tell
of so many. -/
theorem longestFitting_take_eq {α : Type} {size : α → Nat} {budget : Nat} {scopes : Nesting α}
    (hkept : scopes.size - (longestFitting size budget (scopes.toList.take maxScopes)).length = 0) :
    longestFitting size budget (scopes.toList.take maxScopes) = scopes.toList ∧
      scopes.size ≤ maxScopes := by
  have hle := Nat.le_of_sub_eq_zero hkept
  have hmost := length_kept_le size budget scopes
  have hbegins : longestFitting size budget (scopes.toList.take maxScopes) <+: scopes.toList :=
    (longestFitting_isPrefix _ _ _).trans (List.take_prefix _ _)
  refine ⟨hbegins.eq_of_length_le ?_, ?_⟩
  · rwa [Nesting.length_toList]
  · exact Nat.le_trans hle (Nat.le_trans hmost (Nat.min_le_right _ _))

/-- Without placeholders and with all delimiters, the state restored is the one with its names
cut. -/
theorem restored_of_isLossless {limit : Nat} {s : ScanState}
    (hlossless : (encodeWithin limit s).isLossless = true) : restored limit s = clippedState s := by
  rw [isLossless_iff, encodeWithin_eq] at hlossless
  obtain ⟨hdroppedTags, hdroppedSections, hdelimiters⟩ := hlossless
  obtain ⟨htags, htagCount⟩ := longestFitting_take_eq hdroppedTags
  obtain ⟨hsections, hsectionCount⟩ := longestFitting_take_eq hdroppedSections
  have hroom : fixedBytes + delimiterSize s.delimiters ≤ limit := by simpa using hdelimiters
  rw [restored, keptTags, htags, keptSections, hsections, if_pos hroom, clippedState]
  simp [Nat.min_eq_left htagCount, Nat.min_eq_left hsectionCount]

theorem eq_empty_of_size {α : Type} {scopes : Nesting α} (hsize : scopes.size = 0) :
    scopes = .empty :=
  congrArg Nesting.mk (List.eq_nil_of_length_eq_zero hsize)

/-- Without room for the headers, only the fresh state has nothing that could be left out. -/
theorem eq_fresh_of_isLossless {capacity room : Nat} {s : ScanState}
    (hroom : min room capacity < fixedBytes)
    (hlossless : (encode capacity room s).isLossless = true) : s = .fresh := by
  rw [isLossless_iff, encode, if_pos hroom] at hlossless
  obtain ⟨htags, hsections, hdelimiters⟩ := hlossless
  have hbuiltin : s.delimiters = {} := by simpa using hdelimiters
  exact ScanState.ext (eq_empty_of_size htags) (eq_empty_of_size hsections) hbuiltin

section Lossless

variable {capacity room : Nat} {s : ScanState}

/-- From a snapshot that leaves nothing out, the state comes back with its names cut. -/
theorem decode_encode_eq_clippedState (hlossless : (encode capacity room s).isLossless = true) :
    decode capacity (encode capacity room s).bytes =
      { state := clippedState s, isCorrupt := false } := by
  by_cases hroom : min room capacity < fixedBytes
  · obtain rfl := eq_fresh_of_isLossless hroom hlossless
    have hbytes : (encode capacity room .fresh).bytes = [] := by simp [encode, hroom]
    rw [hbytes]
    rfl
  · have hlimit := Nat.le_of_not_lt hroom
    rw [encode_of_le s hlimit] at hlossless ⊢
    have hreading : (encodeWithin (min room capacity) s).bytes.length ≤ capacity :=
      Nat.le_trans (length_encodeWithin_le s hlimit) (Nat.min_le_right _ _)
    rw [decode_encodeWithin hreading, restored_of_isLossless hlossless]

/-- **A lossless snapshot loses nothing but the ends of long names.**  Whatever the state, the
capacity and the room, a snapshot that leaves nothing out by its account is read back with the same
capacity as the state with its names cut, and this is the state itself if and only if none of its
names is too long. -/
theorem decode_encode_of_isLossless (hlossless : (encode capacity room s).isLossless = true) :
    decode capacity (encode capacity room s).bytes =
        { state := clippedState s, isCorrupt := false } ∧
      ((decode capacity (encode capacity room s).bytes).state = s ↔ HasShortNames s) := by
  have hdecode := decode_encode_eq_clippedState hlossless
  refine ⟨hdecode, ?_⟩
  rw [hdecode]
  exact clippedState_eq_self_iff

end Lossless

/-- All of `crowded` comes back from forty bytes. -/
theorem decode_encode_of_isLossless_crowded :
    (encode 40 64 crowded).isLossless = true ∧ HasShortNames crowded ∧
      (decode 40 (encode 40 64 crowded).bytes).state = crowded := by
  have hlossless : (encode 40 64 crowded).isLossless = true := by decide +kernel
  have hshort : HasShortNames crowded := clippedState_eq_self_iff.mp (by decide +kernel)
  exact ⟨hlossless, hshort, (decode_encode_of_isLossless hlossless).2.mpr hshort⟩

/-! ## A state that does not come back -/

theorem tagSize_le (tag : Tag) : tagSize tag ≤ 2 + maxNameBytes := by
  cases tag with
  | known e => exact Nat.le_add_right 1 256
  | custom name =>
    rw [tagSize, clippedLength_eq]
    exact Nat.add_le_add_left (byteLength_clip_le name) 2

/-- The snapshot of a state in which one element is open leaves nothing out by its account, whatever
the name of the element. -/
theorem isLossless_oneTag (tag : Tag) :
    (encode 1024 1024 { tags := .ofList [tag] }).isLossless = true := by
  have hreserved : reserved 1024 {} = fixedBytes := by decide
  have hfits : totalSize tagSize [tag] ≤ 1024 - fixedBytes := by
    have hle : tagSize tag ≤ 2 + 255 := tagSize_le tag
    rw [totalSize_cons, totalSize_nil, fixedBytes]
    omega
  have hkept : keptTags 1024 { tags := .ofList [tag] } = [tag] := by
    rw [keptTags, Nesting.toList_ofList, hreserved]
    exact longestFitting_eq_self hfits
  rw [encode_of_le _ (by decide), isLossless_iff, encodeWithin_eq, Nat.min_self, hkept]
  refine ⟨rfl, Nat.zero_sub _, ?_⟩
  simp [delimiterSize_default, fixedBytes]

/-- A name of one byte more than a snapshot can tell of. -/
def longName : List Char :=
  List.replicate 256 'a'

/-- A scan that meets this name in a start tag. -/
def longNameRequest : ScanRequest where
  text := longName
  valid := .singleton .startTagName
  entry := .start longName
  entry_isIn := Place.isIn_start longName

/-- The state that this scan leads to from the beginning of a document. -/
def longNamed : ScanState :=
  ((Scanner.new {}).answerAll [longNameRequest]).state

/-- The snapshot of this state leaves nothing out by its account, yet the state does not come
back. -/
theorem longNamed_isLossless :
    (encode 1024 1024 longNamed).isLossless = true ∧
      (decode 1024 (encode 1024 1024 longNamed).bytes).state ≠ longNamed := by
  have hnamed : longNamed =
      { tags := .ofList [.custom (String.ofList (List.replicate 256 'A'))] } := by
    decide +kernel
  have hlossless : (encode 1024 1024 longNamed).isLossless = true := by
    rw [hnamed]
    exact isLossless_oneTag _
  refine ⟨hlossless, ?_⟩
  rw [decode_encode_eq_clippedState hlossless, hnamed]
  intro heq
  have hshort := (clippedState_eq_self_iff.mp heq).tagNames _ (List.mem_singleton_self _)
  rw [String.toList_ofList] at hshort
  exact absurd hshort (by decide +kernel)

end TemplateScan.Snapshot
