import TemplateScan.Proofs.Snapshot.RoundTrip

/-!
# Snapshots that are cut

A snapshot tells where it ends, so it does not matter what stands behind it.  Where it is cut, at
whatever byte, all that was written as a whole before the cut is still read; from the first part on
that is not there as a whole nothing is read any more, so no bytes are taken for something else.

* `bytesFrom`: the bytes from a position on that are there before the cut.
* `takeEntries_take`, `takeNesting_bytesFrom`, `takeDelimiter_bytesFrom`: what is read of each
  part, and that the next one is read from its own position on.
* `CutState`: what comes back of a state from a snapshot that is cut.
* `decode_encode_cut`: what is behind a snapshot changes nothing, and what is cut off takes away
  only what it told of.
-/

namespace TemplateScan.Snapshot

open Text Markup Mustache

/-! ## Bytes before a cut -/

/-- The bytes from position `start` on, if all before `n` are there; `none` if the cut is before. -/
def bytesFrom (start n : Nat) (bytes : List UInt8) : Option (List UInt8) :=
  if start ≤ n then some (bytes.take (n - start)) else none

theorem bytesFrom_of_le {start n : Nat} {bytes : List UInt8} (hstart : start ≤ n) :
    bytesFrom start n bytes = some (bytes.take (n - start)) :=
  if_pos hstart

theorem bytesFrom_of_lt {start n : Nat} {bytes : List UInt8} (hcut : n < start) :
    bytesFrom start n bytes = none :=
  if_neg (Nat.not_le_of_gt hcut)

/-- Positions may be counted from any of them before the cut. -/
theorem bytesFrom_sub {base start n : Nat} {bytes : List UInt8} (hbase : base ≤ n) :
    bytesFrom start (n - base) bytes = bytesFrom (base + start) n bytes := by
  rw [bytesFrom, bytesFrom, Nat.sub_sub]
  exact if_congr (by omega) rfl rfl

/-- A part that is there as a whole is read, and the bytes behind it are left. -/
theorem take_append_of_le {part rest : List UInt8} {m : Nat} (hwhole : part.length ≤ m) :
    (part ++ rest).take m = part ++ rest.take (m - part.length) := by
  rw [List.take_append, List.take_of_length_le hwhole]

/-- Of a part that is not there as a whole, no bytes behind it are there. -/
theorem take_append_of_lt {part rest : List UInt8} {m : Nat} (hcut : m < part.length) :
    (part ++ rest).take m = part.take m := by
  rw [List.take_append, Nat.sub_eq_zero_of_le (Nat.le_of_lt hcut), List.take_zero, List.append_nil]

/-! ## Numbers and names -/

theorem takeBytes?_eq_none {n : Nat} {bytes : List UInt8} (hshort : bytes.length < n) :
    takeBytes? n bytes = none := by
  induction bytes generalizing n with
  | nil =>
    cases n with
    | zero => exact absurd hshort (Nat.not_lt_zero _)
    | succ n => rfl
  | cons b bytes ih =>
    cases n with
    | zero => exact absurd hshort (Nat.not_lt_zero _)
    | succ n => rw [takeBytes?, ih (Nat.lt_of_succ_lt_succ hshort), Option.map_none]

theorem takeNumber?_take {k m : Nat} (hk : k ≤ maxScopes) (rest : List UInt8) :
    takeNumber? ((numberBytes k ++ rest).take m) =
      if 2 ≤ m then some (k, rest.take (m - 2)) else none := by
  split
  · next hwhole => rw [take_append_of_le hwhole, takeNumber?_numberBytes hk, length_numberBytes]
  · next hcut =>
    rw [take_append_of_lt (Nat.lt_of_not_le hcut)]
    match m, hcut with
    | 0, _ | 1, _ => rfl
    | m + 2, hcut => exact absurd (Nat.le_add_left 2 m) hcut

/-- A name is not read from a part of its bytes: the length is missing, or it tells of more. -/
theorem takeName?_take {name : String} {m : Nat} (hcut : m < (nameBytes name).length) :
    takeName? ((nameBytes name).take m) = none := by
  cases m with
  | zero => rfl
  | succ m =>
    have hlength : (UInt8.ofNat (Utf8.byteLength (clip name))).toNat =
        (Utf8.encode (clip name)).length := by
      have hle := byteLength_clip_le name
      rw [maxNameBytes] at hle
      rw [Utf8.toNat_ofNat (by omega), Utf8.length_encode]
    rw [nameBytes, List.length_cons] at hcut
    rw [nameBytes, List.take_succ_cons, takeName?, takeBytes?_eq_none, Option.map_none]
    rw [hlength, List.length_take]
    omega

theorem takeTag?_take {tag : Tag} {m : Nat} (hcut : m < (tagBytes tag).length) :
    takeTag? ((tagBytes tag).take m) = none := by
  cases m with
  | zero => rfl
  | succ m =>
    cases tag with
    | known e => exact absurd (Nat.lt_of_succ_lt_succ hcut) (Nat.not_lt_zero m)
    | custom name =>
      rw [tagBytes, List.take_succ_cons, takeTag?, if_pos rfl,
        takeName?_take (Nat.lt_of_succ_lt_succ hcut), Option.map_none]

/-! ## Nestings -/

section Entries

variable {α : Type} {size : α → Nat}

theorem totalSize_le_of_isPrefix {xs ys : List α} (hpre : xs <+: ys) :
    totalSize size xs ≤ totalSize size ys := by
  obtain ⟨more, rfl⟩ := hpre
  induction xs with
  | nil => exact Nat.zero_le _
  | cons x xs ih => exact Nat.add_le_add_left ih _

/-- A member is among the longest beginning that fits if all up to it fit. -/
theorem lt_length_longestFitting_iff {budget i : Nat} {xs : List α} (hi : i < xs.length) :
    i < (longestFitting size budget xs).length ↔ totalSize size (xs.take (i + 1)) ≤ budget := by
  constructor
  · intro hkept
    have hpre : xs.take (i + 1) <+: longestFitting size budget xs :=
      List.prefix_of_prefix_length_le (List.take_prefix _ _) (longestFitting_isPrefix _ _ _) (by
        rw [List.length_take]
        omega)
    exact Nat.le_trans (totalSize_le_of_isPrefix hpre) (totalSize_longestFitting_le _ _ _)
  · intro hfits
    have hle := (isPrefix_longestFitting (List.take_prefix _ _) hfits).length_le
    rw [List.length_take] at hle
    omega

variable {entryOf : α → List UInt8} {clipped : α → α}
  {takeOne? : List UInt8 → Option (α × List UInt8)}

/-- The entries that are there as a whole are read, and from the first one on that is not nothing
is. -/
theorem takeEntries_take (hsize : ∀ x, (entryOf x).length = size x)
    (hone : ∀ x rest, takeOne? (entryOf x ++ rest) = some (clipped x, rest))
    (hcut : ∀ x m, m < (entryOf x).length → takeOne? ((entryOf x).take m) = none)
    (before scopes : List α) (m : Nat) (rest : List UInt8) :
    takeEntries takeOne? scopes.length before (((scopes.map entryOf).flatten ++ rest).take m) =
      (((longestFitting size m scopes).map clipped).reverse ++ before,
        bytesFrom (totalSize size scopes) m rest) := by
  induction scopes generalizing before m with
  | nil =>
    rw [longestFitting_nil, totalSize_nil, bytesFrom_of_le (Nat.zero_le m)]
    rfl
  | cons x later ih =>
    rw [List.map_cons, List.flatten_cons, List.append_assoc, List.length_cons, takeEntries,
      totalSize_cons]
    rcases Nat.lt_or_ge m (size x) with hpart | hwhole
    · -- the cut is in this entry, so it is before all that follows
      have hlt : m < (entryOf x).length := by rwa [hsize]
      rw [take_append_of_lt hlt, hcut x m hlt, longestFitting_cons_of_lt hpart,
        bytesFrom_of_lt (Nat.lt_of_lt_of_le hpart (Nat.le_add_right _ _))]
      rfl
    · have hle : (entryOf x).length ≤ m := by rwa [hsize]
      rw [take_append_of_le hle, hone, longestFitting_cons_of_le hwhole, hsize]
      simp only [ih, bytesFrom_sub hwhole, List.map_cons, List.reverse_cons, List.append_assoc,
        List.singleton_append]

end Entries

/-- What comes back of a nesting, `whole` without a cut, whose header begins at byte `start` of a
snapshot cut to `n` bytes, and of which the scopes `kept` have entries behind the header. -/
structure CutNesting {α : Type} (size : α → Nat) (placeholder : α) (kept : List α) (start n : Nat)
    (whole cut : Nesting α) : Prop where
  /-- With the header, as many scopes are open. -/
  size_eq : start + headerBytes ≤ n → cut.size = whole.size
  /-- The scopes whose entries are there as a whole come back. -/
  getElem?_eq : ∀ i < kept.length,
    start + headerBytes + totalSize size (kept.take (i + 1)) ≤ n →
      cut.toList[i]? = whole.toList[i]?
  /-- All others are placeholders. -/
  eq_placeholder : ∀ i scope, cut.toList[i]? = some scope →
    (i < kept.length → n < start + headerBytes + totalSize size (kept.take (i + 1))) →
      scope = placeholder
  /-- Without the header, no more are open than have entries. -/
  size_le : n < start + headerBytes → cut.size ≤ kept.length

section Nesting

variable {α : Type} {size : α → Nat} {entryOf : α → List UInt8} {clipped : α → α}
  {takeOne? : List UInt8 → Option (α × List UInt8)} {placeholder : α} {kept : List α}
  {start n : Nat} {whole : Nesting α}

/-- Without the header, there are placeholders at most, and no more than scopes have entries. -/
theorem cutNesting_replicate (hcut : n < start + headerBytes) {k : Nat} (hk : k ≤ kept.length) :
    CutNesting size placeholder kept start n whole (.ofList (List.replicate k placeholder)) where
  size_eq hheader := absurd hheader (Nat.not_le_of_gt hcut)
  getElem?_eq _ _ hentry := absurd (Nat.le_trans (Nat.le_add_right _ _) hentry)
    (Nat.not_le_of_gt hcut)
  eq_placeholder i scope hscope _ := by
    rw [Nesting.toList_ofList] at hscope
    exact List.eq_of_mem_replicate (List.mem_of_getElem? hscope)
  size_le _ := by
    rw [← Nesting.length_toList, Nesting.toList_ofList, List.length_replicate]
    exact hk

/-- With the header, the scopes come back whose entries are there as a whole. -/
theorem cutNesting_longestFitting {limit : Nat} (hheader : start + headerBytes ≤ n)
    (hlimit : kept.length ≤ limit) :
    CutNesting size placeholder kept start n
      (.ofList (kept.map clipped ++ List.replicate (limit - kept.length) placeholder))
      (.ofList ((longestFitting size (n - (start + headerBytes)) kept).map clipped ++
        List.replicate (limit - (longestFitting size (n - (start + headerBytes)) kept).length)
          placeholder)) := by
  obtain ⟨more, hmore⟩ := longestFitting_isPrefix size (n - (start + headerBytes)) kept
  generalize hread : longestFitting size (n - (start + headerBytes)) kept = read at hmore
  have hle : read.length ≤ kept.length := by
    rw [← hmore, List.length_append]
    exact Nat.le_add_right _ _
  -- an entry is read if and only if the cut is not before its end
  have hmem (i : Nat) (hi : i < kept.length) : i < read.length ↔
      start + headerBytes + totalSize size (kept.take (i + 1)) ≤ n := by
    rw [← hread, lt_length_longestFitting_iff hi]
    omega
  constructor
  · intro _
    simp only [← Nesting.length_toList, Nesting.toList_ofList, List.length_append, List.length_map,
      List.length_replicate]
    omega
  · intro i hi hentry
    have hkept : i < read.length := (hmem i hi).mpr hentry
    rw [Nesting.toList_ofList, Nesting.toList_ofList, List.getElem?_append_left (by simpa),
      List.getElem?_append_left (by simpa), ← hmore, List.map_append,
      List.getElem?_append_left (by simpa)]
  · intro i scope hscope hout
    rw [Nesting.toList_ofList, List.getElem?_append_right] at hscope
    · exact List.eq_of_mem_replicate (List.mem_of_getElem? hscope)
    · rw [List.length_map]
      refine Nat.le_of_not_lt fun hkept => ?_
      have hi := Nat.lt_of_lt_of_le hkept hle
      exact absurd ((hmem i hi).mp hkept) (Nat.not_le_of_gt (hout hi))
  · intro hcut
    exact absurd hheader (Nat.not_le_of_gt hcut)

/-- A nesting is read as far as it is there, and what is behind it from its own position on. -/
theorem takeNesting_bytesFrom (hsize : ∀ x, (entryOf x).length = size x)
    (hone : ∀ x rest, takeOne? (entryOf x ++ rest) = some (clipped x, rest))
    (hcut : ∀ x m, m < (entryOf x).length → takeOne? ((entryOf x).take m) = none) {total : Nat}
    (hlen : kept.length ≤ min total maxScopes) (rest : List UInt8) :
    ∃ cut, takeNesting placeholder takeOne?
          (bytesFrom start n (nestingBytes total (kept.map entryOf) ++ rest)) =
        (cut, bytesFrom (start + headerBytes + totalSize size kept) n rest) ∧
      CutNesting size placeholder kept start n
        (.ofList (kept.map clipped ++
          List.replicate (min total maxScopes - kept.length) placeholder)) cut := by
  have hfew : (kept.map entryOf).length ≤ maxScopes := by
    rw [List.length_map]
    omega
  -- without the header, nothing behind it is there either
  have hbehind : n < start + headerBytes →
      bytesFrom (start + headerBytes + totalSize size kept) n rest = none :=
    fun hheader => bytesFrom_of_lt (Nat.lt_of_lt_of_le hheader (Nat.le_add_right _ _))
  rcases Nat.lt_or_ge n start with hbefore | hstart
  · have hheader : n < start + headerBytes := Nat.lt_of_lt_of_le hbefore (Nat.le_add_right _ _)
    rw [bytesFrom_of_lt hbefore, hbehind hheader]
    exact ⟨_, rfl, cutNesting_replicate hheader (Nat.zero_le _)⟩
  rw [bytesFrom_of_le hstart, nestingBytes, List.append_assoc, List.append_assoc]
  simp only [takeNesting, takeNumber?_take hfew]
  -- the cut is in the first number, in the second one or behind the header
  by_cases hfirst : 2 ≤ n - start
  · simp only [if_pos hfirst, takeNumber?_take (Nat.min_le_right total maxScopes)]
    by_cases hsecond : 2 ≤ n - start - 2
    · have hheader : start + headerBytes ≤ n := by
        rw [headerBytes]
        omega
      have hleft : n - start - 2 - 2 = n - (start + headerBytes) := by
        rw [headerBytes]
        omega
      simp only [if_pos hsecond, List.length_map, takeEntries_take hsize hone hcut,
        List.append_nil, Nat.max_eq_left hlen, hleft, padded_reverse]
      refine ⟨_, ?_, cutNesting_longestFitting hheader hlen⟩
      exact congrArg _ (bytesFrom_sub hheader)
    · have hheader : n < start + headerBytes := by
        rw [headerBytes]
        omega
      have hnone := padded_reverse placeholder (kept.map entryOf).length []
      rw [List.reverse_nil, List.nil_append] at hnone
      rw [if_neg hsecond, hbehind hheader]
      refine ⟨_, rfl, ?_⟩
      rw [hnone]
      exact cutNesting_replicate hheader (by simp)
  · have hheader : n < start + headerBytes := by
      rw [headerBytes]
      omega
    rw [if_neg hfirst, hbehind hheader]
    exact ⟨_, rfl, cutNesting_replicate hheader (Nat.zero_le _)⟩

end Nesting

/-! ## Delimiters -/

/-- What comes back of a delimiter, `whole` without a cut, whose slot ends at byte `stop` of a
snapshot cut to `n` bytes. -/
structure CutDelimiter (stop n : Nat) (whole cut : Delimiter) : Prop where
  eq_whole : stop ≤ n → cut = whole
  eq_builtin : n < stop → cut = .builtin

/-- A delimiter is read if its slot is there as a whole, and what is behind it from where the slot
ends. -/
theorem takeDelimiter_bytesFrom (d : Delimiter) {start stop : Nat} (n : Nat) (rest : List UInt8)
    (hstop : start + sectionSize d.customText = stop) :
    ∃ cut, takeDelimiter (bytesFrom start n (nameBytes d.customText ++ rest)) =
        (cut, bytesFrom stop n rest) ∧
      CutDelimiter stop n (clippedDelimiter d) cut := by
  rcases Nat.lt_or_ge n stop with hcut | hwhole
  · -- nothing is read, whether or not the bytes before are there
    refine ⟨.builtin, ?_, fun hwhole => absurd hwhole (Nat.not_le_of_gt hcut), fun _ => rfl⟩
    rw [bytesFrom_of_lt hcut, bytesFrom]
    split
    · have hpart : n - start < (nameBytes d.customText).length := by
        rw [length_nameBytes]
        omega
      rw [take_append_of_lt hpart]
      simp only [takeDelimiter, takeName?_take hpart]
    · rfl
  · refine ⟨clippedDelimiter d, ?_, fun _ => rfl, fun hcut => absurd hwhole (Nat.not_le_of_gt hcut)⟩
    have hpart : (nameBytes d.customText).length ≤ n - start := by
      rw [length_nameBytes]
      omega
    rw [bytesFrom_of_le (by omega), bytesFrom_of_le hwhole, take_append_of_le hpart,
      takeDelimiter_nameBytes, length_nameBytes, Nat.sub_sub, hstop]

/-! ## States -/

section Layout

variable (limit : Nat) (s : ScanState)

/-- Where the sections begin in the snapshot of a state, behind the tags. -/
def sectionsStart : Nat :=
  headerBytes + totalSize tagSize (keptTags limit s)

/-- Where the opening delimiter begins, behind the sections. -/
def openingStart : Nat :=
  sectionsStart limit s + headerBytes + totalSize sectionSize (keptSections limit s)

/-- Where the closing delimiter begins, behind the opening one. -/
def closingStart : Nat :=
  openingStart limit s + sectionSize (keptDelimiters limit s.delimiters).opening.customText

/-- Where the previous closing delimiter begins, behind the closing one. -/
def previousClosingStart : Nat :=
  closingStart limit s + sectionSize (keptDelimiters limit s.delimiters).closing.customText

/-- Where the snapshot ends, behind the previous closing delimiter. -/
def snapshotEnd : Nat :=
  previousClosingStart limit s +
    sectionSize (keptDelimiters limit s.delimiters).previousClosing.customText

/-- What comes back of a state, `whole` without a cut, from a snapshot cut to `n` bytes: of each
nesting and each delimiter, what was written as a whole before the cut. -/
structure CutState (n : Nat) (whole cut : ScanState) : Prop where
  tags : CutNesting tagSize .placeholder (keptTags limit s) 0 n whole.tags cut.tags
  sections :
    CutNesting sectionSize "" (keptSections limit s) (sectionsStart limit s) n whole.sections
      cut.sections
  opening : CutDelimiter (closingStart limit s) n whole.delimiters.opening cut.delimiters.opening
  closing :
    CutDelimiter (previousClosingStart limit s) n whole.delimiters.closing cut.delimiters.closing
  previousClosing :
    CutDelimiter (snapshotEnd limit s) n whole.delimiters.previousClosing
      cut.delimiters.previousClosing

end Layout

/-- The parts of a state are read one after the other.  No bytes make the fresh state, as if the
first number were missing. -/
theorem state_decode (capacity : Nat) (bytes : List UInt8) :
    (decode capacity bytes).state =
      let (tags, rest) := takeNesting .placeholder takeTag? (some (bytes.take capacity))
      let (sections, rest) := takeNesting "" takeName? rest
      let (opening, rest) := takeDelimiter rest
      let (closing, rest) := takeDelimiter rest
      { tags, sections,
        delimiters := { opening, closing, previousClosing := (takeDelimiter rest).1 } } := by
  cases bytes with
  | nil =>
    rw [List.take_nil]
    rfl
  | cons b bytes => rfl

section State

variable (limit n : Nat) (s : ScanState) (rest : List UInt8)

theorem takeNesting_tags_bytesFrom :
    ∃ cut, takeNesting .placeholder takeTag?
          (bytesFrom 0 n (nestingBytes s.tags.size ((keptTags limit s).map tagBytes) ++ rest)) =
        (cut, bytesFrom (sectionsStart limit s) n rest) ∧
      CutNesting tagSize .placeholder (keptTags limit s) 0 n (restored limit s).tags cut := by
  have hstart : sectionsStart limit s = 0 + headerBytes + totalSize tagSize (keptTags limit s) := by
    rw [Nat.zero_add, sectionsStart]
  rw [hstart]
  exact takeNesting_bytesFrom length_tagBytes takeTag?_tagBytes (fun _ _ => takeTag?_take)
    (length_kept_le _ _ _) rest

theorem takeNesting_sections_bytesFrom :
    ∃ cut, takeNesting "" takeName? (bytesFrom (sectionsStart limit s) n
          (nestingBytes s.sections.size ((keptSections limit s).map nameBytes) ++ rest)) =
        (cut, bytesFrom (openingStart limit s) n rest) ∧
      CutNesting sectionSize "" (keptSections limit s) (sectionsStart limit s) n
        (restored limit s).sections cut :=
  takeNesting_bytesFrom length_nameBytes takeName?_nameBytes (fun _ _ => takeName?_take)
    (length_kept_le _ _ _) rest

/-- From a cut snapshot, what was written as a whole before the cut comes back. -/
theorem cutState_encodeWithin {reading : Nat} (hn : n ≤ reading) :
    CutState limit s n (restored limit s)
      (decode reading ((encodeWithin limit s).bytes.take n)).state := by
  have htake : some (((encodeWithin limit s).bytes.take n).take reading) =
      bytesFrom 0 n (encodeWithin limit s).bytes := by
    rw [bytesFrom_of_le (Nat.zero_le n), List.take_take, Nat.min_eq_right hn, Nat.sub_zero]
  -- each part is read from where it begins, whether or not that is before the cut
  obtain ⟨d, hd⟩ : ∃ d, keptDelimiters limit s.delimiters = d := ⟨_, rfl⟩
  have hclosingStart : openingStart limit s + sectionSize d.opening.customText =
      closingStart limit s := by
    rw [← hd, closingStart]
  have hpreviousStart : closingStart limit s + sectionSize d.closing.customText =
      previousClosingStart limit s := by
    rw [← hd, previousClosingStart]
  have hend : previousClosingStart limit s + sectionSize d.previousClosing.customText =
      snapshotEnd limit s := by
    rw [← hd, snapshotEnd]
  obtain ⟨tags, htags, hcutTags⟩ := takeNesting_tags_bytesFrom limit n s
    (nestingBytes s.sections.size ((keptSections limit s).map nameBytes) ++ delimiterBytes d)
  obtain ⟨sections, hsections, hcutSections⟩ :=
    takeNesting_sections_bytesFrom limit n s (delimiterBytes d)
  obtain ⟨opening, hopening, hcutOpening⟩ :=
    takeDelimiter_bytesFrom d.opening n
      (nameBytes d.closing.customText ++ (nameBytes d.previousClosing.customText ++ []))
      hclosingStart
  obtain ⟨closing, hclosing, hcutClosing⟩ :=
    takeDelimiter_bytesFrom d.closing n (nameBytes d.previousClosing.customText ++ [])
      hpreviousStart
  obtain ⟨previousClosing, hprevious, hcutPrevious⟩ :=
    takeDelimiter_bytesFrom d.previousClosing n [] hend
  rw [delimiterBytes_eq] at htags hsections
  rw [state_decode, htake, encodeWithin_eq, List.append_assoc, hd, delimiterBytes_eq]
  simp only [htags, hsections, hopening, hclosing, hprevious]
  have hwhole : restored limit s =
      { tags := (restored limit s).tags, sections := (restored limit s).sections,
        delimiters := clippedDelimiters d } := by
    rw [← hd, clippedDelimiters_kept]
  rw [hwhole]
  exact ⟨hcutTags, hcutSections, hcutOpening, hcutClosing, hcutPrevious⟩

end State

/-- **A snapshot tells where it ends, and a cut takes away only what it cuts off.**  Whatever the
state and the limits, if there is room for the headers: what stands behind the snapshot does not
change what is read of it; and where it is cut to `n` bytes, the nestings whose headers are there
are as deep as before, the scopes and delimiters come back that were written as a whole before the
cut, and all others are placeholders and built-in delimiters. -/
theorem decode_encode_cut {capacity room whole : Nat} (s : ScanState)
    (hroom : fixedBytes ≤ min room capacity)
    (hwhole : (encode capacity room s).bytes.length ≤ whole) :
    (∀ behind reading, (encode capacity room s).bytes.length ≤ reading →
      decode reading ((encode capacity room s).bytes ++ behind) =
        decode whole (encode capacity room s).bytes) ∧
    ∀ n reading, n ≤ reading →
      CutState (min room capacity) s n (decode whole (encode capacity room s).bytes).state
        (decode reading ((encode capacity room s).bytes.take n)).state := by
  rw [encode_of_le s hroom] at hwhole ⊢
  rw [decode_encodeWithin hwhole]
  refine ⟨?_, ?_⟩
  · intro behind reading hreading
    exact decode_encodeWithin_append behind hreading
  · intro n reading hn
    exact cutState_encodeWithin _ n s hn

/-- Ten bytes hold the header of the tags of `crowded` and the entries of two of them. -/
theorem decode_encode_cut_crowded :
    fixedBytes ≤ min 64 40 ∧ (encode 40 64 crowded).bytes.length ≤ 40 ∧
      decode 41 ((encode 40 64 crowded).bytes ++ [1]) = decode 40 (encode 40 64 crowded).bytes ∧
      (decode 40 ((encode 40 64 crowded).bytes.take 10)).state.tags.size = 3 ∧
      (decode 40 ((encode 40 64 crowded).bytes.take 10)).state.tags.toList[1]? =
        some (.custom "X-A") ∧
      (decode 40 ((encode 40 64 crowded).bytes.take 10)).state.delimiters.opening = .builtin := by
  have hroom : fixedBytes ≤ min 64 40 := by decide
  have hwhole : (encode 40 64 crowded).bytes.length ≤ 40 := by decide +kernel
  obtain ⟨happend, hcut⟩ := decode_encode_cut crowded hroom hwhole
  have hten := hcut 10 40 (by decide)
  refine ⟨hroom, hwhole, happend [1] 41 (Nat.le_succ_of_le hwhole), ?_, ?_, ?_⟩
  · rw [hten.tags.size_eq (by decide)]
    decide +kernel
  · rw [hten.tags.getElem?_eq 1 (by decide +kernel) (by decide +kernel)]
    decide +kernel
  · exact hten.opening.eq_builtin (by decide +kernel)

end TemplateScan.Snapshot
