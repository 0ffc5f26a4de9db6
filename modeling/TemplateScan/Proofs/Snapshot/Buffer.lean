import TemplateScan.Proofs.Snapshot.Lossless
import TemplateScan.Proofs.Snapshot.Writer

/-!
# The writer stays within its bounds

The writer itself only asks whether a step is allowed.  That every step is rests on one account: the
bytes written so far, the room for the headers and the delimiters that are still to come and what is
left of the budget are never more than the limit.  So no fault occurs, whatever is to be written
into whatever buffer, and the bytes behind the snapshot are left as they are.

* `Contents.encode`: the snapshot of what the writer sees of a state, said without a buffer.
* `exists_write`: the writer writes it, and leaves the bytes behind it.
* `Contents.encode_ofState`: of a state, it is the snapshot that is taken without a buffer.
* `write_inBounds`: writing is never a fault, never exceeds its limit and writes the snapshot.
-/

namespace TemplateScan.Snapshot

open Text Markup Mustache

/-! ## Snapshots -/

namespace Contents

/-- The bytes of the texts of the delimiters, cut. -/
def textBytes (c : Contents) : Nat :=
  totalSize clippedLength c.texts

/-- The bytes that are not for entries. -/
def reserved (limit : Nat) (c : Contents) : Nat :=
  if limit < fixedBytes + c.textBytes then fixedBytes else fixedBytes + c.textBytes

/-- The texts of the delimiters that are written: all of them or none. -/
def writtenTexts (limit : Nat) (c : Contents) : List String :=
  if limit < fixedBytes + c.textBytes then c.texts.map fun _ => "" else c.texts

/-- The tags that are written. -/
def keptTags (limit : Nat) (c : Contents) : List (Entry String) :=
  longestFitting Entry.length (limit - c.reserved limit) (c.tags.take maxScopes)

/-- The sections that are written into what the tags leave. -/
def keptSections (limit : Nat) (c : Contents) : List (Entry String) :=
  longestFitting Entry.length
    (limit - c.reserved limit - totalSize Entry.length (c.keptTags limit))
    (c.sections.take maxScopes)

/-- The snapshot of some contents in at most `limit` bytes. -/
def encodeWithin (limit : Nat) (c : Contents) : Encoding where
  bytes := nestingBytes c.tags.length ((c.keptTags limit).map Entry.bytes) ++
    nestingBytes c.sections.length ((c.keptSections limit).map Entry.bytes) ++
    (c.writtenTexts limit).flatMap nameBytes
  droppedTags := c.tags.length - (c.keptTags limit).length
  droppedSections := c.sections.length - (c.keptSections limit).length
  delimitersDropped := limit < fixedBytes + c.textBytes

/-- The snapshot of some contents in a buffer of `room` bytes, of which at most `capacity` are
used. -/
def encode (capacity room : Nat) (c : Contents) : Encoding :=
  if min room capacity < fixedBytes then
    { bytes := []
      droppedTags := c.tags.length
      droppedSections := c.sections.length
      delimitersDropped := c.opening.isSome || c.closing.isSome || c.previousClosing.isSome }
  else c.encodeWithin (min room capacity)

theorem reserved_le {limit : Nat} (c : Contents) (hlimit : fixedBytes ≤ limit) :
    c.reserved limit ≤ limit := by
  rw [reserved]
  split <;> omega

/-- What is reserved is for the headers and the delimiters that are written. -/
theorem reserved_eq (limit : Nat) (c : Contents) :
    c.reserved limit =
      headerBytes + headerBytes + totalSize sectionSize (c.writtenTexts limit) := by
  have hnone : sectionSize "" = 1 := by decide
  rw [reserved, writtenTexts]
  split
  · simp only [texts, List.map_cons, List.map_nil, totalSize_cons, totalSize_nil, hnone]
    rfl
  · simp only [textBytes, texts, totalSize_cons, totalSize_nil, sectionSize, fixedBytes,
      headerBytes]
    omega

end Contents

/-- A buffer that held `original` before has the snapshot at its beginning and is left behind it. -/
structure Written.Holds (w : Written) (original : List UInt8) (limit : Nat) (e : Encoding) :
    Prop where
  toList_buffer : w.buffer.toList = e.bytes ++ original.drop e.bytes.length
  length_eq : w.length = e.bytes.length
  length_le : w.length ≤ limit
  droppedTags_eq : w.droppedTags = e.droppedTags
  droppedSections_eq : w.droppedSections = e.droppedSections
  delimitersDropped_eq : w.delimitersDropped = e.delimitersDropped

section WriteWithin

variable {limit : Nat} {buffer : Array UInt8} (hbuffer : limit ≤ buffer.size) (c : Contents)

/-- The steps of the writer with all names cut and the account of the delimiters made. -/
theorem writeWithin_eq :
    writeWithin limit buffer hbuffer c = (do
      let budget ← takeAway limit (c.reserved limit)
      let tags ← Writer.putNesting ⟨buffer, limit, hbuffer, 0⟩ budget c.tags
      let sections ← tags.writer.putNesting tags.budget c.sections
      let w ← sections.writer.putNames ((c.writtenTexts limit).map clip)
      let droppedTags ← takeAway c.tags.length tags.emitted
      let droppedSections ← takeAway c.sections.length sections.emitted
      return {
        buffer := w.buffer
        length := w.position
        droppedTags
        droppedSections
        delimitersDropped := limit < fixedBytes + c.textBytes }) := by
  have htextBytes : totalSize Utf8.byteLength (c.texts.map clip) = c.textBytes :=
    totalSize_map (fun text => (clippedLength_eq text).symm) c.texts
  rw [totalSize] at htextBytes
  have htexts : (if limit < fixedBytes + c.textBytes then (c.texts.map clip).map fun _ => []
      else c.texts.map clip) = (c.writtenTexts limit).map clip := by
    rw [Contents.writtenTexts]
    split <;> rfl
  simp only [writeWithin, mapM_clipAtBoundary, ok_bind, htextBytes, decide_eq_true_eq, htexts,
    Contents.reserved]

/-- A writer at the beginning of a buffer has written nothing. -/
theorem Writer.hasWritten_nil :
    Writer.HasWritten ⟨buffer, limit, hbuffer, 0⟩ buffer.toList limit [] where
  toList_buffer := rfl
  position_eq := rfl
  limit_eq := rfl
  length_le := Nat.zero_le _
  limit_le := by
    rw [Array.length_toList]
    exact hbuffer

/-- No more entries are written than there are. -/
theorem takeAway_length_kept (budget : Nat) (entries : List (Entry String)) :
    takeAway entries.length
        (longestFitting Entry.length budget (entries.take maxScopes)).length =
      .ok (entries.length -
        (longestFitting Entry.length budget (entries.take maxScopes)).length) := by
  have hkept := length_longestFitting_take_le Entry.length budget maxScopes entries
  exact if_pos (Nat.le_trans hkept (Nat.min_le_left _ _))

/-- Headers, entries and delimiters are within the limit together, so there is room for each part
when the writer comes to it. -/
theorem exists_writeWithin (hlimit : fixedBytes ≤ limit) :
    ∃ w, writeWithin limit buffer hbuffer c = .ok w ∧
      w.Holds buffer.toList limit (c.encodeWithin limit) := by
  -- what is reserved is at most the limit, and what is left of it is the budget
  have hreserved := c.reserved_le hlimit
  have hparts := c.reserved_eq limit
  have hbudget : takeAway limit (c.reserved limit) = .ok (limit - c.reserved limit) := by
    rw [takeAway, if_pos hreserved]
  have htagBytes : totalSize Entry.length (c.keptTags limit) ≤ limit - c.reserved limit :=
    totalSize_longestFitting_le _ _ _
  have hsectionBytes : totalSize Entry.length (c.keptSections limit) ≤
      limit - c.reserved limit - totalSize Entry.length (c.keptTags limit) :=
    totalSize_longestFitting_le _ _ _
  have hlength (n : Nat) (kept : List (Entry String)) :
      (nestingBytes n (kept.map Entry.bytes)).length = headerBytes + totalSize Entry.length kept :=
    length_nestingBytes (fun _ => rfl) n kept
  -- the tags, with at most the budget for their entries
  have hkeptTags : longestFitting Entry.length (limit - c.reserved limit) (c.tags.take maxScopes) =
      c.keptTags limit :=
    rfl
  obtain ⟨tags, hputTags, htags, htagsLeft, htagCount⟩ :=
    (Writer.hasWritten_nil hbuffer).putNesting hkeptTags (by rw [List.length_nil]; omega)
  -- the sections, with at most what the tags leave
  have hkeptSections : longestFitting Entry.length tags.budget (c.sections.take maxScopes) =
      c.keptSections limit := by
    rw [htagsLeft, Contents.keptSections]
  obtain ⟨sections, hputSections, hsections, -, hsectionCount⟩ :=
    htags.putNesting hkeptSections (by
      rw [List.nil_append, hlength, htagsLeft]
      omega)
  -- the delimiters, for which room was left
  obtain ⟨last, hputNames, hlast⟩ := hsections.putNames (c.writtenTexts limit) (by
    rw [List.nil_append, List.length_append, hlength, hlength]
    omega)
  have hdroppedTags : takeAway c.tags.length tags.emitted =
      .ok (c.tags.length - (c.keptTags limit).length) := by
    rw [htagCount]
    exact takeAway_length_kept _ _
  have hdroppedSections : takeAway c.sections.length sections.emitted =
      .ok (c.sections.length - (c.keptSections limit).length) := by
    rw [hsectionCount]
    exact takeAway_length_kept _ _
  rw [List.nil_append] at hlast
  rw [writeWithin_eq, hbudget, ok_bind, hputTags, ok_bind, hputSections, ok_bind, hputNames,
    ok_bind, hdroppedTags, ok_bind, hdroppedSections, ok_bind]
  refine ⟨_, rfl, ?_⟩
  exact {
    toList_buffer := hlast.toList_buffer
    length_eq := hlast.position_eq
    length_le := hlast.position_eq ▸ hlast.length_le
    droppedTags_eq := rfl
    droppedSections_eq := rfl
    delimitersDropped_eq := rfl }

end WriteWithin

/-- Whatever there is to write into whatever buffer, it is written. -/
theorem exists_write (capacity : Nat) (buffer : Array UInt8) (c : Contents) :
    ∃ w, write capacity buffer c = .ok w ∧
      w.Holds buffer.toList (min buffer.size capacity) (c.encode capacity buffer.size) := by
  rw [write, Contents.encode]
  split
  · -- there is no room for the headers, so nothing is written
    refine ⟨_, rfl, ?_⟩
    exact {
      toList_buffer := rfl
      length_eq := rfl
      length_le := Nat.zero_le _
      droppedTags_eq := rfl
      droppedSections_eq := rfl
      delimitersDropped_eq := rfl }
  · next hlimit => exact exists_writeWithin _ c (Nat.le_of_not_lt hlimit)

section Holds

variable {w : Written} {buffer : Array UInt8} {limit : Nat} {e : Encoding}

/-- The account agrees with that of the snapshot, whose bytes are those in the buffer. -/
theorem Written.Holds.snapshot_eq (hw : w.Holds buffer.toList limit e) : w.snapshot = e := by
  rw [Written.snapshot, hw.toList_buffer, hw.length_eq, List.take_left, hw.droppedTags_eq,
    hw.droppedSections_eq, hw.delimitersDropped_eq]

theorem Written.Holds.drop_eq (hw : w.Holds buffer.toList limit e) :
    w.buffer.toList.drop w.length = buffer.toList.drop w.length := by
  rw [hw.toList_buffer, hw.length_eq, List.drop_left]

/-- The bytes behind the snapshot are left as they are. -/
theorem Written.Holds.getElem?_eq (hw : w.Holds buffer.toList limit e) {i : Nat}
    (hi : w.length ≤ i) : w.buffer[i]? = buffer[i]? := by
  have hdrop := congrArg (·[i - w.length]?) hw.drop_eq
  simpa only [List.getElem?_drop, Nat.add_sub_cancel' hi, Array.getElem?_toList] using hdrop

/-- Writing does not change the size of the buffer. -/
theorem Written.Holds.size_eq (hw : w.Holds buffer.toList limit e) (hlimit : limit ≤ buffer.size) :
    w.buffer.size = buffer.size := by
  have hsize := congrArg List.length hw.toList_buffer
  have hlength := hw.length_le
  rw [hw.length_eq] at hlength
  rw [List.length_append, List.length_drop, Array.length_toList, Array.length_toList] at hsize
  omega

end Holds

/-! ## States -/

namespace Contents

variable (limit : Nat) (s : ScanState)

theorem getD_setText? (d : Delimiter) : (setText? d).getD "" = d.customText := by
  cases d <;> rfl

theorem isSome_setText? (d : Delimiter) : (setText? d).isSome = (d != .builtin) := by
  cases d with
  | builtin => rfl
  | custom text htext => exact (bne_iff_ne.mpr (by simp)).symm

theorem length_tags_ofState : (ofState s).tags.length = s.tags.size := by
  rw [ofState, List.length_map, Nesting.length_toList]

theorem length_sections_ofState : (ofState s).sections.length = s.sections.size := by
  rw [ofState, List.length_map, Nesting.length_toList]

theorem texts_ofState : (ofState s).texts = delimiterTexts s.delimiters := by
  simp only [texts, ofState, getD_setText?, delimiterTexts]

theorem textBytes_ofState : (ofState s).textBytes = delimiterSize s.delimiters := by
  rw [textBytes, texts_ofState]
  simp [delimiterTexts, delimiterSize, Nat.add_assoc]

theorem reserved_ofState : (ofState s).reserved limit = Snapshot.reserved limit s.delimiters := by
  rw [reserved, textBytes_ofState, Snapshot.reserved, ← ite_not]
  simp only [Nat.not_lt]

theorem writtenTexts_ofState :
    (ofState s).writtenTexts limit = delimiterTexts (keptDelimiters limit s.delimiters) := by
  rw [writtenTexts, textBytes_ofState, texts_ofState, keptDelimiters, ← ite_not]
  simp only [Nat.not_lt]
  split <;> rfl

theorem keptTags_ofState :
    (ofState s).keptTags limit = (Snapshot.keptTags limit s).map .ofTag := by
  rw [keptTags, reserved_ofState, ofState, ← List.map_take, longestFitting_map Entry.length_ofTag,
    Snapshot.keptTags]

theorem keptSections_ofState :
    (ofState s).keptSections limit = (Snapshot.keptSections limit s).map .ofSection := by
  rw [keptSections, reserved_ofState, keptTags_ofState, totalSize_map Entry.length_ofTag, ofState,
    ← List.map_take, longestFitting_map Entry.length_ofSection, Snapshot.keptSections]

/-- What is written of a state is its snapshot. -/
theorem encodeWithin_ofState :
    (ofState s).encodeWithin limit = Snapshot.encodeWithin limit s := by
  have htagBytes : ((Snapshot.keptTags limit s).map Entry.ofTag).map Entry.bytes =
      (Snapshot.keptTags limit s).map tagBytes := by
    rw [List.map_map]
    exact List.map_congr_left fun tag _ => Entry.bytes_ofTag tag
  have hsectionBytes : ((Snapshot.keptSections limit s).map Entry.ofSection).map Entry.bytes =
      (Snapshot.keptSections limit s).map nameBytes := by
    rw [List.map_map]
    exact List.map_congr_left fun name _ => Entry.bytes_ofSection name
  rw [encodeWithin, Snapshot.encodeWithin_eq, keptTags_ofState, keptSections_ofState, htagBytes,
    hsectionBytes, length_tags_ofState, length_sections_ofState, writtenTexts_ofState,
    textBytes_ofState, List.length_map, List.length_map]
  rfl

/-- A delimiter was set if and only if the delimiters differ from those at first. -/
theorem isSome_ofState :
    ((ofState s).opening.isSome || (ofState s).closing.isSome ||
      (ofState s).previousClosing.isSome) = (s.delimiters != {}) := by
  simp only [ofState, isSome_setText?]
  obtain ⟨opening, closing, previousClosing⟩ := s.delimiters
  rw [Bool.eq_iff_iff]
  simp only [Bool.or_eq_true, bne_iff_ne, ne_eq, Delimiters.mk.injEq, not_and_or, or_assoc]

theorem encode_ofState (capacity room : Nat) :
    (ofState s).encode capacity room = Snapshot.encode capacity room s := by
  rw [encode, Snapshot.encode, encodeWithin_ofState, length_tags_ofState, length_sections_ofState,
    isSome_ofState]

end Contents

/-- **Writing stays within its bounds.**  Whatever there is to write into whatever buffer, no step
of the writer is a fault, what is written takes neither more than the buffer has nor more than the
capacity, and the bytes behind it are left as they are.  Of a state, the snapshot is written. -/
theorem write_inBounds (capacity : Nat) (buffer : Array UInt8) :
    (∀ c, ∃ w, write capacity buffer c = .ok w ∧ w.length ≤ min buffer.size capacity ∧
      w.buffer.size = buffer.size ∧ ∀ i, w.length ≤ i → w.buffer[i]? = buffer[i]?) ∧
    ∀ s, (write capacity buffer (.ofState s)).map Written.snapshot =
      .ok (encode capacity buffer.size s) := by
  constructor
  · intro c
    obtain ⟨w, hwrite, hholds⟩ := exists_write capacity buffer c
    exact ⟨w, hwrite, hholds.length_le, hholds.size_eq (Nat.min_le_left _ _),
      fun i hi => hholds.getElem?_eq hi⟩
  · intro s
    obtain ⟨w, hwrite, hholds⟩ := exists_write capacity buffer (.ofState s)
    rw [hwrite, Except.map, hholds.snapshot_eq, Contents.encode_ofState]

/-- Of a buffer of thirty bytes, a capacity of twenty-three leaves the last ones as they were,
though not all of `crowded` can be written. -/
theorem write_inBounds_crowded :
    ∃ w, write 23 (Array.replicate 30 7) (.ofState crowded) = .ok w ∧ w.length ≤ 23 ∧
      w.buffer[29]? = some 7 ∧ w.snapshot.droppedSections = 1 := by
  have hbounds := write_inBounds 23 (Array.replicate 30 7)
  obtain ⟨w, hwrite, hlength, -, hbehind⟩ := hbounds.1 (.ofState crowded)
  have hle : w.length ≤ 23 := Nat.le_trans hlength (Nat.min_le_right _ _)
  have hsnapshot := hbounds.2 crowded
  rw [hwrite] at hsnapshot
  refine ⟨w, hwrite, hle, ?_, ?_⟩
  · rw [hbehind 29 (by omega)]
    decide
  · rw [Except.ok.inj hsnapshot]
    decide +kernel

end TemplateScan.Snapshot
