import TemplateScan.Proofs.Snapshot.Lossless
import TemplateScan.Proofs.Text.Utf8

/-!
# Clean snapshots

Bytes are clean if every part of the format is there as a whole and nothing stands behind the last
one.  Clean bytes are the whole snapshot of the state that they are read as, so taking a snapshot of
this state writes them again, even where it is given no byte more.

* `IsClean`: the format, part by part, without a word about the reader or the writer.
* `Fits.bytes_encodeWithin`: the snapshot of a state that fits is `wholeBytes`, whatever the limit.
* `isClean_iff`: the clean bytes are the whole snapshots of the states that fit into them.
* `encode_decode_of_isClean`: reading clean bytes and writing what was read gives them back.
-/

namespace TemplateScan.Snapshot

open Text Markup Mustache

/-! ## The format -/

/-- A length and as many bytes of well-formed UTF-8. -/
def IsNameEntry (entry : List UInt8) : Prop :=
  ∃ length text, entry = length :: text ∧ text.length = length.toNat ∧ (Utf8.decode? text).isSome

/-- The byte of an element of HTML, or the byte of the custom tags and a name. -/
inductive IsTagEntry : List UInt8 → Prop
  | known {byte : UInt8} (hbyte : (Element.ofByte? byte).isSome) : IsTagEntry [byte]
  | custom {entry : List UInt8} (hentry : IsNameEntry entry) : IsTagEntry (Tag.customByte :: entry)

/-- A header with the same number twice, and as many entries. -/
def IsWholeNesting (IsEntry : List UInt8 → Prop) (bytes : List UInt8) : Prop :=
  ∃ low high entries, bytes = low :: high :: low :: high :: List.flatten entries ∧
    entries.length = low.toNat + 256 * high.toNat ∧ ∀ entry ∈ entries, IsEntry entry

/-- Tags, sections and three delimiters, with nothing after them. -/
def IsClean (bytes : List UInt8) : Prop :=
  ∃ tags sections opening closing previousClosing,
    bytes = tags ++ sections ++ opening ++ closing ++ previousClosing ∧
      IsWholeNesting IsTagEntry tags ∧ IsWholeNesting IsNameEntry sections ∧
      IsNameEntry opening ∧ IsNameEntry closing ∧ IsNameEntry previousClosing

/-! ## Snapshots that leave nothing out -/

/-- All entries of a state and its delimiters. -/
def wholeBytes (s : ScanState) : List UInt8 :=
  nestingBytes s.tags.size (s.tags.toList.map tagBytes) ++
    nestingBytes s.sections.size (s.sections.toList.map nameBytes) ++ delimiterBytes s.delimiters

section HasRoom

variable {limit : Nat} {s : ScanState}

/-- What is written of a state that there is room for does not depend on the limit. -/
theorem HasRoom.bytes_encodeWithin (hroom : HasRoom limit s) :
    (encodeWithin limit s).bytes = wholeBytes s := by
  rw [encodeWithin_eq, hroom.keptTags_eq, hroom.keptSections_eq, keptDelimiters,
    if_pos hroom.delimiters_fit, wholeBytes]

theorem HasRoom.length_wholeBytes (hroom : HasRoom limit s) :
    (wholeBytes s).length = storedSize s := by
  rw [← hroom.bytes_encodeWithin, length_encodeWithin, hroom.keptTags_eq, hroom.keptSections_eq,
    hroom.reserved_eq, storedSize]

end HasRoom

section Fits

variable {limit limit' : Nat} {s : ScanState}

theorem Fits.mono (hfits : Fits limit s) (hle : limit ≤ limit') : Fits limit' s :=
  { hfits with size := Nat.le_trans hfits.size hle }

theorem Fits.bytes_encodeWithin (hfits : Fits limit s) :
    (encodeWithin limit s).bytes = wholeBytes s :=
  hfits.hasRoom.bytes_encodeWithin

theorem Fits.length_wholeBytes (hfits : Fits limit s) : (wholeBytes s).length = snapshotSize s := by
  rw [hfits.hasRoom.length_wholeBytes, hfits.storedSize_eq]

/-- Of the buffer and the capacity only the smaller one counts. -/
theorem encode_min (capacity room : Nat) (s : ScanState) :
    encode capacity room s = encode (min room capacity) (min room capacity) s := by
  rw [encode, encode, Nat.min_self]

/-- A state that fits into both the capacity and the buffer is written as a whole. -/
theorem Fits.encode_eq_whole {capacity room : Nat} (hcapacity : Fits capacity s)
    (hroom : Fits room s) :
    (encode capacity room s).isLossless = true ∧ (encode capacity room s).bytes = wholeBytes s := by
  have hfits : Fits (min room capacity) s :=
    { hroom with size := Nat.le_min.mpr ⟨hroom.size, hcapacity.size⟩ }
  rw [encode_min]
  refine ⟨hfits.isLossless, ?_⟩
  rw [hfits.encode_eq, hfits.bytes_encodeWithin]

/-- The whole snapshot of a state is read as this state. -/
theorem Fits.decode_wholeBytes (hfits : Fits limit s) :
    decode limit (wholeBytes s) = { state := s, isCorrupt := false } := by
  have hback := hfits.decode_encode_self
  rwa [hfits.encode_eq, hfits.bytes_encodeWithin] at hback

end Fits

/-! ## The parts of clean bytes -/

/-- A name that needs no cut. -/
def IsShortName (name : String) : Prop :=
  Utf8.byteLength name.toList ≤ maxNameBytes

/-- A tag whose name needs no cut, if the snapshot names it. -/
def IsShortTag (tag : Tag) : Prop :=
  ∀ name, tag = .custom name → IsShortName name

theorem nameBytes_ofList {cs : List Char} (hshort : Utf8.byteLength cs ≤ maxNameBytes) :
    nameBytes (String.ofList cs) = .ofNat (Utf8.byteLength cs) :: Utf8.encode cs := by
  have hclip : clip (String.ofList cs) = cs := by
    rw [clip_eq_toList (by rwa [String.toList_ofList]), String.toList_ofList]
  rw [nameBytes, hclip]

theorem IsNameEntry.exists_name {entry : List UInt8} (hentry : IsNameEntry entry) :
    ∃ name, IsShortName name ∧ nameBytes name = entry := by
  obtain ⟨length, text, rfl, hlength, hvalid⟩ := hentry
  obtain ⟨cs, hcs⟩ := Option.isSome_iff_exists.mp hvalid
  obtain rfl := Utf8.decode?_eq_some_iff.mp hcs
  -- the length is a byte, so that nothing has to be cut
  rw [Utf8.length_encode] at hlength
  have hshort : Utf8.byteLength cs ≤ maxNameBytes := by
    rw [hlength, maxNameBytes]
    exact Nat.le_of_lt_succ length.toNat_lt
  refine ⟨String.ofList cs, ?_, ?_⟩
  · rwa [IsShortName, String.toList_ofList]
  · rw [nameBytes_ofList hshort, hlength, UInt8.ofNat_toNat]

/-- Elements stand in the order of their bytes. -/
theorem byte_of_ofByte? {byte : UInt8} {e : Element} (h : Element.ofByte? byte = some e) :
    e.byte = byte := by
  have hindex : ∀ i : Fin Element.all.length, (Element.all[i]).ctorIdx = i.val := by decide +kernel
  obtain ⟨hlt, hget⟩ := List.getElem?_eq_some_iff.mp h
  have hplace := hindex ⟨byte.toNat, hlt⟩
  rw [Fin.getElem_fin, hget] at hplace
  rw [Element.byte, hplace, UInt8.ofNat_toNat]

theorem IsTagEntry.exists_tag {entry : List UInt8} (hentry : IsTagEntry entry) :
    ∃ tag, IsShortTag tag ∧ tagBytes tag = entry := by
  cases hentry with
  | known hbyte =>
    obtain ⟨e, he⟩ := Option.isSome_iff_exists.mp hbyte
    refine ⟨.known e, ?_, ?_⟩
    · intro name hname
      cases hname
    · rw [tagBytes, byte_of_ofByte? he]
  | custom hname =>
    obtain ⟨name, hshort, rfl⟩ := hname.exists_name
    refine ⟨.custom name, ?_, rfl⟩
    intro _ hcustom
    rwa [← Tag.custom.inj hcustom]

section Nesting

variable {α : Type} {entryOf : α → List UInt8} {IsEntry : List UInt8 → Prop} {IsShort : α → Prop}

/-- Entries that are written one by one are written from one list of scopes. -/
theorem exists_scopes (hone : ∀ entry, IsEntry entry → ∃ x, IsShort x ∧ entryOf x = entry)
    {entries : List (List UInt8)} (hentries : ∀ entry ∈ entries, IsEntry entry) :
    ∃ scopes : List α, (∀ x ∈ scopes, IsShort x) ∧ scopes.map entryOf = entries := by
  induction entries with
  | nil => exact ⟨[], by simp⟩
  | cons entry entries ih =>
    rw [List.forall_mem_cons] at hentries
    obtain ⟨x, hx, rfl⟩ := hone entry hentries.1
    obtain ⟨scopes, hscopes, rfl⟩ := ih hentries.2
    exact ⟨x :: scopes, List.forall_mem_cons.mpr ⟨hx, hscopes⟩, rfl⟩

theorem numberBytes_toNat (low high : UInt8) :
    numberBytes (low.toNat + 256 * high.toNat) = [low, high] := by
  have hlow := low.toNat_lt
  rw [numberBytes, Utf8.ofNat_eq (b := low) (by omega), Utf8.ofNat_eq (b := high) (by omega)]

theorem IsWholeNesting.exists_nesting
    (hone : ∀ entry, IsEntry entry → ∃ x, IsShort x ∧ entryOf x = entry) {bytes : List UInt8}
    (hbytes : IsWholeNesting IsEntry bytes) :
    ∃ scopes : Nesting α, scopes.size ≤ maxScopes ∧ (∀ x ∈ scopes.toList, IsShort x) ∧
      nestingBytes scopes.size (scopes.toList.map entryOf) = bytes := by
  obtain ⟨low, high, entries, rfl, hcount, hentries⟩ := hbytes
  obtain ⟨scopes, hshort, rfl⟩ := exists_scopes hone hentries
  have hlow := low.toNat_lt
  have hhigh := high.toNat_lt
  rw [List.length_map] at hcount
  have hfew : scopes.length ≤ maxScopes := by
    rw [maxScopes]
    omega
  refine ⟨.ofList scopes, ?_, ?_, ?_⟩
  · rwa [← Nesting.length_toList, Nesting.toList_ofList]
  · rwa [Nesting.toList_ofList]
  · rw [← Nesting.length_toList, Nesting.toList_ofList, nestingBytes, List.length_map,
      Nat.min_eq_left hfew, hcount, numberBytes_toNat]
    rfl

end Nesting

/-! ## Whole snapshots are clean -/

theorem isNameEntry_nameBytes (name : String) : IsNameEntry (nameBytes name) := by
  refine ⟨_, _, rfl, (toNat_lengthByte name).symm, ?_⟩
  rw [Utf8.decode?_encode]
  rfl

theorem isTagEntry_tagBytes (tag : Tag) : IsTagEntry (tagBytes tag) := by
  cases tag with
  | known e =>
    refine .known ?_
    rw [Element.ofByte?_byte]
    rfl
  | custom name => exact .custom (isNameEntry_nameBytes name)

theorem isWholeNesting_nestingBytes {α : Type} {entryOf : α → List UInt8}
    {IsEntry : List UInt8 → Prop} (hentry : ∀ x, IsEntry (entryOf x)) {scopes : Nesting α}
    (hfew : scopes.size ≤ maxScopes) :
    IsWholeNesting IsEntry (nestingBytes scopes.size (scopes.toList.map entryOf)) := by
  refine ⟨.ofNat (scopes.size % 256), .ofNat (scopes.size / 256), scopes.toList.map entryOf,
    ?_, ?_, ?_⟩
  · -- all scopes are written, so that both numbers of the header are the same
    rw [nestingBytes, List.length_map, Nesting.length_toList, Nat.min_eq_left hfew]
    rfl
  · rw [maxScopes] at hfew
    rw [List.length_map, Nesting.length_toList, Utf8.toNat_ofNat (Nat.mod_lt _ (by decide)),
      Utf8.toNat_ofNat (by omega), Nat.mod_add_div]
  · rw [List.forall_mem_map]
    exact fun x _ => hentry x

theorem Fits.isClean_wholeBytes {limit : Nat} {s : ScanState} (hfits : Fits limit s) :
    IsClean (wholeBytes s) := by
  refine ⟨_, _, _, _, _, ?_, isWholeNesting_nestingBytes isTagEntry_tagBytes hfits.tagCount,
    isWholeNesting_nestingBytes isNameEntry_nameBytes hfits.sectionCount,
    isNameEntry_nameBytes s.delimiters.opening.customText,
    isNameEntry_nameBytes s.delimiters.closing.customText,
    isNameEntry_nameBytes s.delimiters.previousClosing.customText⟩
  rw [wholeBytes, delimiterBytes_eq]
  simp only [List.append_nil, List.append_assoc]

/-! ## Reading and writing clean bytes -/

/-- Clean bytes are the whole snapshot of a state, and there is room for it in just as many
bytes. -/
theorem IsClean.exists_state {bytes : List UInt8} (hclean : IsClean bytes) :
    ∃ s, Fits bytes.length s ∧ wholeBytes s = bytes := by
  obtain ⟨_, _, _, _, _, rfl, htags, hsections, hopening, hclosing, hprevious⟩ := hclean
  obtain ⟨tags, htagCount, htagShort, rfl⟩ :=
    htags.exists_nesting fun _ hentry => hentry.exists_tag
  obtain ⟨sections, hsectionCount, hsectionShort, rfl⟩ :=
    hsections.exists_nesting fun _ hentry => hentry.exists_name
  obtain ⟨opening, hopeningShort, rfl⟩ := hopening.exists_name
  obtain ⟨closing, hclosingShort, rfl⟩ := hclosing.exists_name
  obtain ⟨previousClosing, hpreviousShort, rfl⟩ := hprevious.exists_name
  let s : ScanState :=
    { tags, sections
      delimiters :=
        { opening := .ofText opening, closing := .ofText closing
          previousClosing := .ofText previousClosing } }
  -- the state fits into what its whole snapshot takes, as there is nothing to cut
  have hfits : Fits (snapshotSize s) s :=
    { tagNames := fun name hname => htagShort _ hname name rfl
      sectionNames := hsectionShort
      delimiterTexts := by
        simpa [s, delimiterTexts, Delimiter.customText_ofText] using
          ⟨hopeningShort, hclosingShort, hpreviousShort⟩
      tagCount := htagCount
      sectionCount := hsectionCount
      size := Nat.le_refl _ }
  have hbytes : wholeBytes s = nestingBytes tags.size (tags.toList.map tagBytes) ++
      nestingBytes sections.size (sections.toList.map nameBytes) ++ nameBytes opening ++
      nameBytes closing ++ nameBytes previousClosing := by
    rw [wholeBytes, delimiterBytes_eq]
    simp only [s, Delimiter.customText_ofText, List.append_nil, List.append_assoc]
  refine ⟨s, ?_, hbytes⟩
  rw [← hbytes, hfits.length_wholeBytes]
  exact hfits

/-- The clean bytes are the snapshots that leave nothing out. -/
theorem isClean_iff {bytes : List UInt8} :
    IsClean bytes ↔ ∃ s, Fits bytes.length s ∧ wholeBytes s = bytes := by
  constructor
  · exact IsClean.exists_state
  · rintro ⟨s, hfits, hbytes⟩
    rw [← hbytes]
    exact hfits.isClean_wholeBytes

/-- **Writing undoes reading.**  Clean bytes that neither the capacity nor the buffer is too small
for are read to their end, and the snapshot of the state read leaves nothing out and consists of the
same bytes. -/
theorem encode_decode_of_isClean {bytes : List UInt8} {capacity room : Nat}
    (hclean : IsClean bytes) (hcapacity : bytes.length ≤ capacity) (hroom : bytes.length ≤ room) :
    (decode capacity bytes).isCorrupt = false ∧
      (encode capacity room (decode capacity bytes).state).isLossless = true ∧
      (encode capacity room (decode capacity bytes).state).bytes.length = bytes.length ∧
      (encode capacity room (decode capacity bytes).state).bytes = bytes := by
  obtain ⟨s, hfits, hbytes⟩ := hclean.exists_state
  have hdecode := (hfits.mono hcapacity).decode_wholeBytes
  rw [hbytes] at hdecode
  obtain ⟨hlossless, hback⟩ := (hfits.mono hcapacity).encode_eq_whole (hfits.mono hroom)
  rw [hbytes] at hback
  simp only [hdecode]
  exact ⟨trivial, hlossless, congrArg List.length hback, hback⟩

/-- A clean snapshot: an element of HTML, a custom one, a section and an opening delimiter. -/
def cleanBytes : List UInt8 :=
  [2, 0, 2, 0, 47, 125, 3, 88, 45, 65, 1, 0, 1, 0, 2, 0xC3, 0xA9, 2, 60, 37, 0, 0]

/-- `cleanBytes` comes back with no byte to spare. -/
theorem encode_decode_cleanBytes :
    IsClean cleanBytes ∧ (encode 22 22 (decode 22 cleanBytes).state).isLossless = true ∧
      (encode 22 22 (decode 22 cleanBytes).state).bytes = cleanBytes ∧
      (decode 22 cleanBytes).state =
        { tags := .ofList [.known .div, .custom "X-A"]
          sections := .ofList ["é"]
          delimiters := { opening := .ofText "<%" } } := by
  have hname : IsNameEntry [3, 88, 45, 65] := ⟨3, [88, 45, 65], rfl, rfl, by decide +kernel⟩
  have htags : IsWholeNesting IsTagEntry [2, 0, 2, 0, 47, 125, 3, 88, 45, 65] := by
    refine ⟨2, 0, [[47], [125, 3, 88, 45, 65]], rfl, rfl, ?_⟩
    rw [List.forall_mem_cons, List.forall_mem_singleton]
    exact ⟨.known (by decide +kernel), .custom hname⟩
  have hsections : IsWholeNesting IsNameEntry [1, 0, 1, 0, 2, 0xC3, 0xA9] := by
    refine ⟨1, 0, [[2, 0xC3, 0xA9]], rfl, rfl, ?_⟩
    rw [List.forall_mem_singleton]
    exact ⟨2, [0xC3, 0xA9], rfl, rfl, by decide +kernel⟩
  have hopening : IsNameEntry [2, 60, 37] := ⟨2, [60, 37], rfl, rfl, by decide +kernel⟩
  have hempty : IsNameEntry [0] := ⟨0, [], rfl, rfl, by decide +kernel⟩
  have hclean : IsClean cleanBytes :=
    ⟨_, _, _, _, _, rfl, htags, hsections, hopening, hempty, hempty⟩
  obtain ⟨-, hlossless, -, hbytes⟩ :=
    @encode_decode_of_isClean cleanBytes 22 22 hclean (by decide) (by decide)
  exact ⟨hclean, hlossless, hbytes, by decide +kernel⟩

end TemplateScan.Snapshot
