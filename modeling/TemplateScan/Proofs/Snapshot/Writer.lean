import TemplateScan.Proofs.Snapshot.Parts
import TemplateScan.Snapshot.Buffer

/-!
# What the writer has written

The writer goes from the beginning of a buffer to the end of the snapshot and only comes back to
fill in the headers.  So at any time the buffer consists of the bytes written and of those that it
held before.  Each step adds its part to the bytes written, provided that there is room for this
part before the limit, and then it is no fault.

* `clipAtBoundary_eq`: names are cut at a character boundary, and to the beginning that `clip`
  keeps.
* `Writer.HasWritten`: the writer has written some bytes and has left those behind them.
* `HasWritten.put`, `HasWritten.putEntry`, `HasWritten.putEntries`, `HasWritten.putNesting`: what
  each step adds to them.
-/

namespace TemplateScan

/-- A step that is allowed hands its result on. -/
theorem ok_bind {ε α β : Type} (a : α) (next : α → Except ε β) :
    (Except.ok a >>= next) = next a :=
  rfl

namespace Snapshot

open Text Markup Mustache

/-! ## Names -/

section Names

variable {text before : List Char} {offset : Nat}

/-- The offsets of the boundaries are the sizes of the beginnings. -/
theorem isSome_at?_iff :
    (Place.at? text offset).isSome = true ↔
      ∃ before, before <+: text ∧ Utf8.byteLength before = offset := by
  constructor
  · intro hsome
    obtain ⟨p, hp⟩ := Option.isSome_iff_exists.mp hsome
    obtain ⟨⟨before, hsplit, hoffset⟩, hp⟩ := Place.at?_eq_some_iff.mp hp
    exact ⟨before, ⟨p.ahead, hsplit.symm⟩, by rw [← hoffset, hp]⟩
  · rintro ⟨before, ⟨ahead, hsplit⟩, hoffset⟩
    have hplace : Place.at? text offset = some ⟨offset, ahead⟩ :=
      Place.at?_eq_some_iff.mpr ⟨⟨before, hsplit.symm, hoffset.symm⟩, rfl⟩
    rw [hplace, Option.isSome_some]

/-- If there is no boundary at an offset, nothing ends there, and one byte less allows as much. -/
theorem clipTo_succ_of_not_boundary
    (hnone : ¬(Place.at? text (offset + 1)).isSome = true) :
    clipTo (offset + 1) text = clipTo offset text := by
  have hle := byteLength_clipTo_le (offset + 1) text
  -- what is kept ends at a boundary, so it does not take the last byte
  have hne : Utf8.byteLength (clipTo (offset + 1) text) ≠ offset + 1 := by
    intro hends
    exact hnone (isSome_at?_iff.mpr ⟨_, clipTo_isPrefix _ _, hends⟩)
  rw [clipTo_eq_longestFitting, clipTo_eq_longestFitting] at *
  symm
  refine longestFitting_unique (longestFitting_isPrefix _ _ _) ?_ ?_
  · rw [totalSize_utf8Size]
    omega
  · intro zs hzs hfits
    exact isPrefix_longestFitting hzs (Nat.le_succ_of_le hfits)

/-- Going back from an offset ends at the end of the longest beginning that fits: at the latest it
ends at the beginning of the text. -/
theorem boundaryUpTo_eq (text : List Char) (offset : Nat) :
    boundaryUpTo text offset = .ok (Utf8.byteLength (clipTo offset text)) := by
  induction offset with
  | zero =>
    have hstart : (Place.at? text 0).isSome = true :=
      isSome_at?_iff.mpr ⟨[], List.nil_prefix, rfl⟩
    have hle := byteLength_clipTo_le 0 text
    rw [boundaryUpTo, if_pos hstart, Nat.le_zero.mp hle]
  | succ offset ih =>
    rw [boundaryUpTo]
    split
    · next hboundary =>
      -- the beginning up to this boundary fits, so none of its bytes are cut off
      obtain ⟨before, hbefore, hends⟩ := isSome_at?_iff.mp hboundary
      have hkept : before <+: clipTo (offset + 1) text := by
        rw [clipTo_eq_longestFitting]
        exact isPrefix_longestFitting hbefore (Nat.le_of_eq hends)
      obtain ⟨more, hmore⟩ := hkept
      have hle := byteLength_clipTo_le (offset + 1) text
      rw [← hmore, Utf8.byteLength_append, hends] at hle ⊢
      have hnothing : Utf8.byteLength more = 0 := by omega
      rw [hnothing, Nat.add_zero]
    · next hnone => rw [ih, clipTo_succ_of_not_boundary hnone]

theorem cutAt_of_isPrefix (hbefore : before <+: text) :
    cutAt text (Utf8.byteLength before) = .ok before := by
  obtain ⟨ahead, rfl⟩ := hbefore
  have hplace : Place.at? (before ++ ahead) (Utf8.byteLength before) =
      some ⟨Utf8.byteLength before, ahead⟩ :=
    Place.at?_eq_some_iff.mpr ⟨⟨before, rfl, rfl⟩, rfl⟩
  simp only [cutAt, hplace, List.length_append, Nat.add_sub_cancel, List.take_left]

/-- Cutting at a boundary is never a fault, and gives the part of the name that a snapshot holds. -/
theorem clipAtBoundary_eq (name : String) : clipAtBoundary name = .ok (clip name) := by
  rw [clipAtBoundary]
  split
  · next hshort => rw [clip_eq_toList hshort]
  · rw [boundaryUpTo_eq, ok_bind, cutAt_of_isPrefix (clipTo_isPrefix _ _), clip]

theorem mapM_clipAtBoundary (names : List String) :
    names.mapM clipAtBoundary = .ok (names.map clip) := by
  induction names with
  | nil => rfl
  | cons name later ih =>
    rw [List.mapM_cons, clipAtBoundary_eq, ok_bind, ih]
    rfl

end Names

/-! ## Entries -/

namespace Entry

/-- The entry with its name cut, as a snapshot holds it. -/
def clipped (e : Entry String) : Entry (List Char) where
  kind? := e.kind?
  name? := e.name?.map Snapshot.clip

/-- The bytes of an entry. -/
def bytes (e : Entry String) : List UInt8 :=
  e.kind?.toList ++ e.name?.elim [] nameBytes

/-- The number of bytes of an entry. -/
def length (e : Entry String) : Nat :=
  e.bytes.length

theorem clip_eq (e : Entry String) : e.clip = .ok e.clipped := by
  obtain ⟨kind?, name?⟩ := e
  cases name? with
  | none => rfl
  | some name =>
    simp only [clip, clipAtBoundary_eq, ok_bind]
    rfl

theorem size_clipped (e : Entry String) : e.clipped.size = e.length := by
  obtain ⟨kind?, name?⟩ := e
  rw [length, bytes, List.length_append]
  -- the byte of the kind, and the length and the bytes of the name
  refine congrArg₂ (· + ·) ?_ ?_
  · cases kind? <;> rfl
  · cases name? with
    | none => rfl
    | some name =>
      rw [Option.elim_some, length_nameBytes, sectionSize, clippedLength_eq]
      rfl

theorem bytes_ofTag (tag : Tag) : (ofTag tag).bytes = tagBytes tag := by
  cases tag with
  | known e => rfl
  | custom name => rfl

theorem bytes_ofSection (name : String) : (ofSection name).bytes = nameBytes name :=
  rfl

theorem length_ofTag (tag : Tag) : (ofTag tag).length = tagSize tag := by
  rw [length, bytes_ofTag, length_tagBytes]

theorem length_ofSection (name : String) : (ofSection name).length = sectionSize name := by
  rw [length, bytes_ofSection, length_nameBytes]

end Entry

/-! ## The bytes of the buffer -/

/-- As many bytes as are written are replaced, and all others are left. -/
theorem toList_overwrite {buffer : Array UInt8} {before old bytes behind : List UInt8}
    (hbuffer : buffer.toList = before ++ (old ++ behind)) (hlength : old.length = bytes.length) :
    (overwrite buffer before.length bytes).toList = before ++ (bytes ++ behind) := by
  induction bytes generalizing buffer before old with
  | nil =>
    obtain rfl := List.eq_nil_of_length_eq_zero hlength
    rw [overwrite, hbuffer]
  | cons byte bytes ih =>
    obtain ⟨replaced, old, rfl⟩ := List.exists_cons_of_length_eq_add_one hlength
    -- the byte written belongs to what is before the next one
    have hset : (buffer.setIfInBounds before.length byte).toList =
        (before ++ [byte]) ++ (old ++ behind) := by
      rw [Array.toList_setIfInBounds, hbuffer]
      simp
    have hnext := ih hset (Nat.succ.inj hlength)
    rw [List.length_append, List.length_singleton] at hnext
    rw [overwrite, hnext]
    simp

namespace Writer

variable {w : Writer} {original bytes : List UInt8} {limit : Nat}

/-- The writer has written `bytes` into a buffer that held `original` before, of which it may write
those before the limit. -/
structure HasWritten (w : Writer) (original : List UInt8) (limit : Nat) (bytes : List UInt8) :
    Prop where
  toList_buffer : w.buffer.toList = bytes ++ original.drop bytes.length
  position_eq : w.position = bytes.length
  limit_eq : w.limit = limit
  length_le : bytes.length ≤ limit
  limit_le : limit ≤ original.length

/-- Bytes before the limit may be replaced. -/
theorem exists_store {before old behind new : List UInt8}
    (hbuffer : w.buffer.toList = before ++ (old ++ behind)) (hlength : old.length = new.length)
    (hroom : before.length + new.length ≤ w.limit) :
    ∃ next, w.store before.length new = .ok next ∧
      next.buffer.toList = before ++ (new ++ behind) ∧ next.limit = w.limit ∧
      next.position = w.position :=
  ⟨_, if_pos hroom, toList_overwrite hbuffer hlength, rfl, rfl⟩

/-- Bytes for which there is room are added to those written. -/
theorem HasWritten.put (hw : w.HasWritten original limit bytes) (new : List UInt8)
    (hroom : bytes.length + new.length ≤ limit) :
    ∃ next, w.put new = .ok next ∧ next.HasWritten original limit (bytes ++ new) := by
  have hlimit := hw.limit_le
  -- the bytes that are replaced are the first ones that the writer has not come to
  have hbuffer : w.buffer.toList = bytes ++ ((original.drop bytes.length).take new.length ++
      original.drop (bytes ++ new).length) := by
    rw [hw.toList_buffer, List.length_append, ← List.drop_drop, List.take_append_drop]
  have hlength : ((original.drop bytes.length).take new.length).length = new.length := by
    rw [List.length_take, List.length_drop]
    omega
  obtain ⟨stored, hstore, hnext, hstoredLimit, -⟩ :=
    exists_store hbuffer hlength (by rwa [hw.limit_eq])
  refine ⟨{ stored with position := w.position + new.length }, ?_, ?_⟩
  · rw [Writer.put, hw.position_eq, hstore]
    rfl
  · exact {
      toList_buffer := by rw [hnext, List.append_assoc]
      position_eq := by rw [hw.position_eq, List.length_append]
      limit_eq := by rw [hstoredLimit, hw.limit_eq]
      length_le := by rwa [List.length_append]
      limit_le := hlimit }

/-- A name is added with its length, which fits into a byte as the name has been cut. -/
theorem HasWritten.putName (hw : w.HasWritten original limit bytes) (name : String)
    (hroom : bytes.length + sectionSize name ≤ limit) :
    ∃ next, w.putName (clip name) = .ok next ∧
      next.HasWritten original limit (bytes ++ nameBytes name) := by
  have hshort := byteLength_clip_le name
  rw [maxNameBytes] at hshort
  rw [sectionSize, clippedLength_eq] at hroom
  have hlength :
      byteOf (Utf8.byteLength (clip name)) = .ok (.ofNat (Utf8.byteLength (clip name))) :=
    if_pos (by omega)
  obtain ⟨next, hput, hnext⟩ := hw.put [.ofNat (Utf8.byteLength (clip name))] (by
    rw [List.length_singleton]
    omega)
  obtain ⟨last, hputText, hlast⟩ := hnext.put (Utf8.encode (clip name)) (by
    rw [List.length_append, List.length_singleton, Utf8.length_encode]
    omega)
  refine ⟨last, ?_, ?_⟩
  · rw [Writer.putName, hlength, ok_bind, hput, ok_bind, hputText]
  · rwa [List.append_assoc, List.singleton_append] at hlast

/-- Names for which there is room together are added one after the other. -/
theorem HasWritten.putNames (hw : w.HasWritten original limit bytes) (names : List String)
    (hroom : bytes.length + totalSize sectionSize names ≤ limit) :
    ∃ next, w.putNames (names.map clip) = .ok next ∧
      next.HasWritten original limit (bytes ++ names.flatMap nameBytes) := by
  induction names generalizing w bytes with
  | nil =>
    rw [List.flatMap_nil, List.append_nil]
    exact ⟨w, rfl, hw⟩
  | cons name later ih =>
    rw [totalSize_cons] at hroom
    obtain ⟨next, hput, hnext⟩ := hw.putName name (by omega)
    obtain ⟨last, hrest, hlast⟩ := ih hnext (by
      rw [List.length_append, length_nameBytes]
      omega)
    refine ⟨last, ?_, ?_⟩
    · rw [List.map_cons, Writer.putNames, hput, ok_bind, hrest]
    · rwa [List.flatMap_cons, ← List.append_assoc]

/-- An entry is added as a whole. -/
theorem HasWritten.putEntry (hw : w.HasWritten original limit bytes) (e : Entry String)
    (hroom : bytes.length + e.length ≤ limit) :
    ∃ next, w.putEntry e.clipped = .ok next ∧
      next.HasWritten original limit (bytes ++ e.bytes) := by
  rw [Entry.length, Entry.bytes, List.length_append] at hroom
  obtain ⟨next, hput, hnext⟩ := hw.put e.kind?.toList (by omega)
  rw [Writer.putEntry, Entry.clipped, Entry.bytes, hput, ok_bind]
  cases hname : e.name? with
  | none =>
    rw [Option.elim_none, List.append_nil]
    exact ⟨next, rfl, hnext⟩
  | some name =>
    rw [hname, Option.elim_some, length_nameBytes] at hroom
    obtain ⟨last, hputName, hlast⟩ := hnext.putName name (by
      rw [List.length_append]
      omega)
    rw [List.append_assoc] at hlast
    exact ⟨last, hputName, hlast⟩

/-- Of some entries, the longest beginning that fits into the budget is added.  As long as the
budget is within what is left of the limit, there is room for it. -/
theorem HasWritten.putEntries (hw : w.HasWritten original limit bytes) {budget : Nat}
    (hroom : bytes.length + budget ≤ limit) (emitted : Nat) (entries : List (Entry String)) :
    ∃ filling, w.putEntries budget emitted entries = .ok filling ∧
      filling.writer.HasWritten original limit
        (bytes ++ ((longestFitting Entry.length budget entries).map Entry.bytes).flatten) ∧
      filling.budget =
        budget - totalSize Entry.length (longestFitting Entry.length budget entries) ∧
      filling.emitted = emitted + (longestFitting Entry.length budget entries).length := by
  induction entries generalizing w bytes budget emitted with
  | nil =>
    refine ⟨{ writer := w, budget, emitted }, rfl, ?_, ?_, ?_⟩ <;> simp [hw]
  | cons e later ih =>
    rw [Writer.putEntries, e.clip_eq, ok_bind, e.size_clipped]
    rcases Nat.lt_or_ge budget e.length with hfull | hfits
    · rw [if_pos hfull, longestFitting_cons_of_lt hfull]
      refine ⟨{ writer := w, budget, emitted }, rfl, ?_, ?_, ?_⟩ <;> simp [hw]
    · -- the entry takes from the budget what it takes of the limit
      have htaken : takeAway budget e.length = .ok (budget - e.length) := if_pos hfits
      obtain ⟨next, hput, hnext⟩ := hw.putEntry e (by omega)
      have hnextRoom : (bytes ++ e.bytes).length + (budget - e.length) ≤ limit := by
        rw [List.length_append, ← Entry.length]
        omega
      obtain ⟨filling, hrest, hwritten, hleft, hcount⟩ := ih hnext hnextRoom (emitted + 1)
      rw [if_neg (Nat.not_lt.mpr hfits), htaken, ok_bind, hput, ok_bind, hrest,
        longestFitting_cons_of_le hfits]
      refine ⟨filling, rfl, ?_, ?_, ?_⟩
      · rwa [List.map_cons, List.flatten_cons, ← List.append_assoc]
      · rw [hleft, totalSize_cons, Nat.sub_sub]
      · rw [hcount, List.length_cons]
        omega

/-- The room for a header counts as written, whatever stands there. -/
theorem HasWritten.reserve (hw : w.HasWritten original limit bytes)
    (hroom : bytes.length + headerBytes ≤ limit) :
    ∃ room, room.length = headerBytes ∧ w.reserve.HasWritten original limit (bytes ++ room) := by
  have hlimit := hw.limit_le
  have hlength : ((original.drop bytes.length).take headerBytes).length = headerBytes := by
    rw [List.length_take, List.length_drop]
    omega
  refine ⟨_, hlength, ?_⟩
  exact {
    toList_buffer := by
      rw [List.length_append, hlength, ← List.drop_drop, List.append_assoc, List.take_append_drop]
      exact hw.toList_buffer
    position_eq := by
      rw [List.length_append, hlength, ← hw.position_eq]
      rfl
    limit_eq := hw.limit_eq
    length_le := by rwa [List.length_append, hlength]
    limit_le := hlimit }

/-- Filling in a header replaces the bytes of its two numbers. -/
theorem exists_fillHeader {before room behind : List UInt8}
    (hbuffer : w.buffer.toList = before ++ (room ++ behind)) (hlength : room.length = headerBytes)
    (hroom : before.length + headerBytes ≤ w.limit) {emitted size : Nat}
    (hemitted : emitted ≤ maxScopes) (hsize : size ≤ maxScopes) :
    ∃ next, w.fillHeader before.length emitted size = .ok next ∧
      next.buffer.toList = before ++ ((numberBytes emitted ++ numberBytes size) ++ behind) ∧
      next.limit = w.limit ∧ next.position = w.position := by
  rw [maxScopes] at hemitted hsize
  rw [headerBytes] at hlength hroom
  have hemittedBytes : twoBytesOf emitted = .ok (numberBytes emitted) := if_pos (by omega)
  have hsizeBytes : twoBytesOf size = .ok (numberBytes size) := if_pos (by omega)
  -- the first number goes into the first half of the room, and the second one into the other half
  have hfirst : (room.take 2).length = (numberBytes emitted).length := by
    rw [List.length_take, hlength, length_numberBytes]
    decide
  have hsecond : (room.drop 2).length = (numberBytes size).length := by
    rw [List.length_drop, hlength, length_numberBytes]
  have hhalves : w.buffer.toList = before ++ (room.take 2 ++ (room.drop 2 ++ behind)) := by
    rw [hbuffer, ← List.append_assoc (room.take 2), List.take_append_drop]
  obtain ⟨next, hstore, hnext, hnextLimit, hnextPosition⟩ := exists_store hhalves hfirst (by
    rw [length_numberBytes]
    omega)
  rw [← List.append_assoc] at hnext
  obtain ⟨last, hstoreSize, hlast, hlastLimit, hlastPosition⟩ := exists_store hnext hsecond (by
    rw [List.length_append, length_numberBytes, length_numberBytes, hnextLimit]
    omega)
  rw [List.length_append, length_numberBytes] at hstoreSize
  refine ⟨last, ?_, ?_, ?_, ?_⟩
  · rw [Writer.fillHeader, hemittedBytes, ok_bind, hstore, ok_bind, hsizeBytes, ok_bind, hstoreSize]
  · rw [hlast]
    simp only [List.append_assoc]
  · rw [hlastLimit, hnextLimit]
  · rw [hlastPosition, hnextPosition]

/-- A header takes the place of the room that was left for it. -/
theorem HasWritten.fillHeader {before room behind : List UInt8}
    (hw : w.HasWritten original limit (before ++ room ++ behind))
    (hlength : room.length = headerBytes) {emitted size : Nat} (hemitted : emitted ≤ maxScopes)
    (hsize : size ≤ maxScopes) :
    ∃ next, w.fillHeader before.length emitted size = .ok next ∧ next.HasWritten original limit
      (before ++ (numberBytes emitted ++ numberBytes size) ++ behind) := by
  have hbounds := hw.length_le
  have hbuffer := hw.toList_buffer
  have hposition := hw.position_eq
  -- the numbers are as long as the room left for them, so nothing else moves
  have hsame : (before ++ (numberBytes emitted ++ numberBytes size) ++ behind).length =
      (before ++ room ++ behind).length := by
    simp only [List.length_append, length_numberBytes, hlength]
    rfl
  rw [← hsame] at hbounds hbuffer hposition
  rw [List.append_assoc, List.append_assoc] at hbuffer
  have hroom : before.length + headerBytes ≤ w.limit := by
    simp only [List.length_append, length_numberBytes] at hbounds
    rw [hw.limit_eq, headerBytes]
    omega
  obtain ⟨next, hfill, hnext, hnextLimit, hnextPosition⟩ :=
    exists_fillHeader hbuffer hlength hroom hemitted hsize
  refine ⟨next, hfill, ?_⟩
  exact {
    toList_buffer := by simp only [hnext, List.append_assoc]
    position_eq := by rw [hnextPosition, hposition]
    limit_eq := by rw [hnextLimit, hw.limit_eq]
    length_le := hbounds
    limit_le := hw.limit_le }

/-- A nesting is added with its header: the entries of the longest beginning that fits into the
budget, if there is room for the header besides. -/
theorem HasWritten.putNesting (hw : w.HasWritten original limit bytes) {budget : Nat}
    {entries kept : List (Entry String)}
    (hkept : longestFitting Entry.length budget (entries.take maxScopes) = kept)
    (hroom : bytes.length + headerBytes + budget ≤ limit) :
    ∃ filling, w.putNesting budget entries = .ok filling ∧
      filling.writer.HasWritten original limit
        (bytes ++ nestingBytes entries.length (kept.map Entry.bytes)) ∧
      filling.budget = budget - totalSize Entry.length kept ∧ filling.emitted = kept.length := by
  subst hkept
  have htake : entries.take (min entries.length maxScopes) = entries.take maxScopes := by
    rw [Nat.min_comm, ← List.take_eq_take_min]
  have hfew : (longestFitting Entry.length budget (entries.take maxScopes)).length ≤ maxScopes :=
    Nat.le_trans (length_longestFitting_take_le _ _ _ _) (Nat.min_le_right _ _)
  -- the header stands before the entries, but it is only known behind them
  obtain ⟨room, hlength, hreserve⟩ := hw.reserve (by omega)
  obtain ⟨filling, hput, hwritten, hleft, hcount⟩ :=
    hreserve.putEntries (by rw [List.length_append, hlength]; exact hroom) 0
      (entries.take maxScopes)
  rw [Nat.zero_add] at hcount
  obtain ⟨last, hfill, hlast⟩ := hwritten.fillHeader hlength hfew
    (Nat.min_le_right entries.length maxScopes)
  have hheader : filling.writer.fillHeader w.position filling.emitted
      (min entries.length maxScopes) = .ok last := by
    rw [hw.position_eq, hcount]
    exact hfill
  refine ⟨{ filling with writer := last }, ?_, ?_, hleft, hcount⟩
  · simp only [Writer.putNesting, htake, hput, ok_bind, hheader]
    rfl
  · rw [List.append_assoc] at hlast
    rw [nestingBytes, List.length_map]
    exact hlast

end Writer

end Snapshot

end TemplateScan
