import TemplateScan.Host.Parse
import TemplateScan.Proofs.Document.Progress
import TemplateScan.Proofs.Snapshot.Buffer
import TemplateScan.Proofs.Text.Marks

/-!
# Hosts follow runs

A host goes on by bytes and a run by characters.  As long as both have read the same, the host is at
a character boundary, so it may look ahead; what is ahead tells how many bytes there are up to the
next one: one for a mark, as many as it has for a character, and so on.  So the host does what the
run does, and is never at fault unless a buffer or a count gives out.

* `Follows`: a host has read what a run has read.
* `Comes`: what a host does comes to a result, unless a count goes over and this is checked.
* `Comes.bind`: this goes on from step to step.
* `Follows.goOn_mark`, `Follows.skipPast`, `Follows.scan` and the like: the single steps.
-/

namespace TemplateScan.Document

open Text TokenSet

/-- A boundary of a text is found by its offset, from wherever it is looked for. -/
theorem Boundary.seek?_offset {text : String} (near p : Boundary text) :
    near.seek? p.1.offset = some p := by
  have hfound : near.1.seek? text.toList p.1.offset = some p.1 := by
    rw [near.2.seek?_eq_at?]
    exact Place.at?_eq_some_iff.mpr ⟨p.2, rfl⟩
  unfold seek?
  split
  · next q hq =>
    rw [hfound] at hq
    exact congrArg some (Subtype.ext (Option.some.inj hq).symm)
  · next hnone => rw [hfound] at hnone; cases hnone

/-! ## What a host comes to -/

namespace Host

open Run (IsOver Walks)

/-- What a host does comes to what `Q` tells of, unless a count has gone over where the run has come
to `last`, and this is checked. -/
def Comes {α : Type} (checked : Bool) (last : Run) (Q : α → Prop) (x : Except Fault α) : Prop :=
  if checked && last.overflowed then x = .error .countOverflow else ∃ a, x = .ok a ∧ Q a

section Comes

variable {α β : Type} {checked : Bool} {mid last : Run} {Q Q' : α → Prop} {x : Except Fault α}

theorem Comes.ok {a : α} (hspared : (checked && last.overflowed) = false) (ha : Q a) :
    Comes checked last Q (.ok a) := by
  rw [Comes, hspared]
  exact ⟨a, rfl, ha⟩

theorem Comes.mono (hx : Comes checked last Q x) (himp : ∀ a, Q a → Q' a) :
    Comes checked last Q' x := by
  rw [Comes] at *
  split
  · next hover => rwa [if_pos hover] at hx
  · next hover =>
    rw [if_neg hover] at hx
    obtain ⟨a, ha, hQ⟩ := hx
    exact ⟨a, ha, himp a hQ⟩

/-- There is a result and no count has gone over, or one has and this is checked. -/
theorem Comes.cases (hx : Comes checked last Q x) :
    (∃ a, x = .ok a ∧ (checked && last.overflowed) = false ∧ Q a) ∨
      (x = .error .countOverflow ∧ (checked && last.overflowed) = true) := by
  rw [Comes] at hx
  split at hx
  · next hover => exact Or.inr ⟨hx, hover⟩
  · next hover =>
    obtain ⟨a, ha, hQ⟩ := hx
    exact Or.inl ⟨a, ha, Bool.eq_false_iff.mpr hover, hQ⟩

/-- Behind a count that has gone over nothing is done. -/
theorem Comes.fault (hspared : (checked && mid.overflowed) = true)
    (hover : mid.overflowed = true → last.overflowed = true) :
    Comes checked last Q (.error .countOverflow) := by
  obtain ⟨hchecked, hmid⟩ := Bool.and_eq_true_iff.mp hspared
  rw [Comes, hchecked, hover hmid]
  rfl

/-- One thing is done behind the other, if a count that has gone over stays so. -/
theorem Comes.andThen {P : β → Prop} {k : α → Except Fault β} (hx : Comes checked mid Q x)
    (hover : mid.overflowed = true → last.overflowed = true)
    (hk : ∀ a, Q a → Comes checked last P (k a)) : Comes checked last P (x >>= k) := by
  rcases hx.cases with ⟨a, rfl, -, ha⟩ | ⟨rfl, hmid⟩
  · exact hk a ha
  · exact .fault hmid hover

theorem Comes.bind {P : β → Prop} {k : α → Except Fault β} (hx : Comes checked mid Q x)
    (hwalk : Walks mid last) (hk : ∀ a, Q a → Comes checked last P (k a)) :
    Comes checked last P (x >>= k) :=
  hx.andThen hwalk.overflowed hk

end Comes

/-! ## Hosts and runs -/

/-- The host has read what the run has read, and checks what `checked` tells. -/
structure Follows {text : String} (checked : Bool) (h : Host text) (r : Run) : Prop where
  isOver : r.IsOver text.toList
  pos : h.pos = r.place.offset
  scanner : h.scanner = r.scanner
  checkpoint : h.checkpoint = r.checkpoint
  checks : h.checked = checked
  tokens : h.tokens = r.tokens
  issues : h.issues = r.issues
  trace : h.trace = r.trace
  /-- There is a buffer for the snapshots. -/
  room : r.checkpoint = true → r.scanner.config.capacity ≤ maxBufferBytes
  /-- No count has gone over that is checked. -/
  spared : (checked && r.overflowed) = false

/-- The host has the result of the run and has read what the run has read. -/
def FollowsWith {text : String} {α : Type} (checked : Bool) (y : α × Run) (x : α × Host text) :
    Prop :=
  x.1 = y.1 ∧ Follows checked x.2 y.2

/-- The host comes to where the run has come. -/
abbrev ComesTo {text : String} (checked : Bool) (last : Run) (x : Except Fault (Host text)) :
    Prop :=
  Comes checked last (Follows checked · last) x

/-- The host comes to where the run has come, with its result. -/
abbrev ComesWith {text : String} {α : Type} (checked : Bool) (y : α × Run)
    (x : Except Fault (α × Host text)) : Prop :=
  Comes checked y.2 (FollowsWith checked y) x

section Follows

variable {text : String} {checked : Bool} {h : Host text} {r : Run}

/-- A host that has read what a run has read. -/
theorem Follows.comes (hf : Follows checked h r) : ComesTo checked r (.ok h) :=
  .ok hf.spared hf

theorem Follows.comesWith {α : Type} (hf : Follows checked h r) (a : α) :
    ComesWith checked (a, r) (.ok (a, h)) :=
  .ok hf.spared ⟨rfl, hf⟩

/-- What is done behind depends on the result. -/
theorem Comes.bindWith {α β : Type} {a : α} {next last : Run} {y : α × Run} {P : β → Prop}
    {x : Except Fault (α × Host text)} {k : α × Host text → Except Fault β}
    (hx : ComesWith checked y x) (hy : y = (a, next)) (hwalk : Walks next last)
    (hk : ∀ h', Follows checked h' next → Comes checked last P (k (a, h'))) :
    Comes checked last P (x >>= k) := by
  subst hy
  refine hx.bind hwalk ?_
  rintro ⟨_, h'⟩ ⟨rfl, hf'⟩
  exact hk h' hf'

/-! ### Looking ahead -/

/-- The boundary that the host is at. -/
def Follows.boundary (hf : Follows checked h r) : Boundary text :=
  ⟨r.place, hf.isOver.place⟩

theorem Follows.seek? (hf : Follows checked h r) : h.near.seek? h.pos = some hf.boundary := by
  rw [hf.pos]
  exact Boundary.seek?_offset h.near hf.boundary

theorem Follows.here (hf : Follows checked h r) : h.here = .ok hf.boundary := by
  rw [Host.here, hf.seek?]

theorem Follows.scanStart (hf : Follows checked h r) : h.scanStart = .ok hf.boundary := by
  rw [Host.scanStart, hf.seek?]

theorem Follows.ahead (hf : Follows checked h r) : h.ahead = .ok r.ahead := by
  rw [Host.ahead, hf.here]
  rfl

theorem Follows.next? (hf : Follows checked h r) : h.next? = .ok r.next? := by
  rw [Host.next?, hf.ahead]
  rfl

theorem Follows.remaining (hf : Follows checked h r) : h.remaining = r.remaining := by
  rw [Host.remaining, Run.remaining, hf.isOver.size, Utf8.byteLength_toList, hf.pos]

/-! ### Issues -/

theorem Follows.raise (hf : Follows checked h r) (cause : Cause) :
    Follows checked (h.raise cause) (r.raise cause) :=
  { hf with
    isOver := ⟨hf.isOver.size, hf.isOver.place⟩
    issues := by
      show _ :: h.issues = _ :: r.issues
      rw [hf.issues, hf.pos]
    trace := by
      show _ :: h.trace = _ :: r.trace
      rw [hf.trace, hf.pos] }

/-! ### Moving on -/

/-- The host goes on by the bytes of the characters that the run passes. -/
theorem Follows.goOn (hf : Follows checked h r) {n bytes : Nat}
    (hbytes : bytes = Utf8.byteLength (r.ahead.take n)) :
    Follows checked (h.goOn bytes) (r.advance n) := by
  have hplace : (r.advance n).place = r.place.advance n := rfl
  exact { hf with
    isOver := ⟨hf.isOver.size, hf.isOver.place.advance n⟩
    pos := by
      rw [hplace, Place.advance_offset, Host.goOn, hf.pos, hbytes]
      rfl }

/-- Some marks ahead are as many bytes. -/
theorem Follows.goOn_marks (hf : Follows checked h r) (marks : List Char)
    (hmarks : ∀ c ∈ marks, IsMark c) (hahead : marks <+: r.ahead) :
    Follows checked (h.goOn marks.length) (r.advance marks.length) := by
  apply hf.goOn
  rw [← List.prefix_iff_eq_take.mp hahead, Utf8.byteLength_marks hmarks]

/-- A mark ahead is one byte. -/
theorem Follows.goOn_mark (hf : Follows checked h r) {c : Char} (hnext : r.next? = some c)
    (hc : IsMark c) : Follows checked (h.goOn 1) (r.advance 1) := by
  obtain ⟨rest, hahead⟩ := Run.exists_ahead hnext
  exact hf.goOn_marks [c] (by simpa using hc) ⟨rest, hahead.symm⟩

theorem Follows.toEnd (hf : Follows checked h r) : Follows checked h.toEnd r.toEnd :=
  { hf with
    isOver := hf.isOver.toEnd
    pos := by
      show text.utf8ByteSize = r.size
      rw [hf.isOver.size, Utf8.byteLength_toList] }

/-- One character is passed over, if there is one. -/
theorem Follows.bump (hf : Follows checked h r) :
    ∃ h', h.bump = .ok h' ∧ Follows checked h' (r.advance 1) := by
  rw [Host.bump, hf.next?]
  cases hahead : r.ahead with
  | nil =>
    -- at the end of the text neither goes on
    have hnext : r.next? = none := by rw [Run.next?, Place.next?]; exact congrArg _ hahead
    have hstay : Follows checked (h.goOn 0) (r.advance 1) := hf.goOn (by simp [hahead])
    exact ⟨h, by rw [hnext]; rfl, hstay⟩
  | cons c rest =>
    have hnext : r.next? = some c := by rw [Run.next?, Place.next?]; exact congrArg _ hahead
    exact ⟨h.goOn c.utf8Size, by rw [hnext]; rfl, hf.goOn (by simp [hahead])⟩

theorem Follows.takeWhile (hf : Follows checked h r) (inClass : Char → Bool) :
    ∃ h', h.takeWhile inClass = .ok (Utf8.byteLength (r.ahead.takeWhile inClass), h') ∧
      Follows checked h' (r.skipWhile inClass) := by
  have hpassed := hf.goOn (n := (r.ahead.takeWhile inClass).length)
    (congrArg _ (List.prefix_iff_eq_take.mp (List.takeWhile_prefix inClass)))
  rw [Host.takeWhile, hf.here]
  exact ⟨_, rfl, { hpassed with }⟩

theorem Follows.skipBlanks (hf : Follows checked h r) :
    ∃ h', h.skipBlanks = .ok h' ∧ Follows checked h' r.skipBlanks := by
  obtain ⟨h', hskip, hf'⟩ := hf.takeWhile isBlank
  exact ⟨h', by rw [Host.skipBlanks, hskip]; rfl, hf'⟩

/-- Going behind a mark that is looked for among the bytes. -/
theorem Follows.skipPast (hf : Follows checked h r) {c : Char} (hc : IsMark c) (cause : Cause) :
    ∃ h', h.skipPast c cause = .ok h' ∧ Follows checked h' (match r.ahead.idxOf? c with
      | some n => r.advance (n + 1)
      | none => (r.raise cause).toEnd) := by
  have hindex : byteIndex? c.toNat.toUInt8 r.ahead =
      (r.ahead.idxOf? c).map fun n => Utf8.byteLength (r.ahead.take n) :=
    Utf8.idxOf?_encode hc r.ahead
  -- the bytes before the mark are those of the characters before it, as no other one has its byte
  rw [Host.skipPast, hf.ahead, ok_bind, hindex]
  cases hfound : r.ahead.idxOf? c with
  | none => exact ⟨_, rfl, (hf.raise cause).toEnd⟩
  | some n => exact ⟨_, rfl, hf.goOn (byteLength_take_mark hc hfound).symm⟩

/-! ### Snapshots -/

/-- The buffer for the snapshots gets the size that is asked for. -/
theorem exists_resize {size : Nat} (buffer : Array UInt8) (hroom : size ≤ maxBufferBytes) :
    ∃ resized, resize buffer size = .ok resized ∧ resized.size = size := by
  rw [resize, if_neg (Nat.not_lt.mpr hroom)]
  split
  · exact ⟨_, rfl, by simp; omega⟩
  · exact ⟨_, rfl, by simp; omega⟩

/-- The host writes the snapshot of the state into its buffer and reads it back. -/
theorem Follows.roundTrip (hf : Follows checked h r) (hsaves : r.checkpoint = true) :
    ∃ h', h.roundTrip = .ok h' ∧ Follows checked h' r.roundTrip := by
  obtain ⟨buffer, hresize, hsize⟩ := exists_resize h.buffer (hf.room hsaves)
  obtain ⟨w, hwrite, hholds⟩ :=
    Snapshot.exists_write r.scanner.config.capacity buffer (.ofState r.scanner.state)
  -- what is in the buffer is what the run saves, so what is read back is what the run restores
  have hsnapshot : w.snapshot = (r.scanner.save r.scanner.config.capacity).1 := by
    rw [hholds.snapshot_eq, Snapshot.Contents.encode_ofState, hsize]
    rfl
  have hlength : w.length ≤ w.buffer.size := by
    rw [hholds.size_eq (Nat.min_le_left _ _)]
    exact Nat.le_trans hholds.length_le (Nat.min_le_left _ _)
  have hbytes : firstBytes w.buffer w.length =
      .ok (r.scanner.save r.scanner.config.capacity).1.bytes := by
    rw [firstBytes, if_pos hlength, ← hsnapshot]
    rfl
  have hdone : h.roundTrip = .ok (Host.log { h with
      buffer := w.buffer
      scanner := (r.scanner.restore (r.scanner.save r.scanner.config.capacity).1.bytes).1 }
      ((r.scanner.save r.scanner.config.capacity).2 ++
        (r.scanner.restore (r.scanner.save r.scanner.config.capacity).1.bytes).2)) := by
    simp only [Host.roundTrip, hf.scanner, hresize, hwrite, Except.mapError, ok_bind, hbytes,
      hsnapshot]
    rfl
  refine ⟨_, hdone, ?_⟩
  exact { hf with
    isOver := ⟨hf.isOver.size, hf.isOver.place⟩
    scanner := rfl
    trace := by
      show _ ++ h.trace = _ ++ r.trace
      rw [hf.trace]
      rfl }

theorem Follows.beforeScan (hf : Follows checked h r) :
    ∃ h', h.beforeScan = .ok h' ∧ Follows checked h' r.beforeScan := by
  rw [Host.beforeScan, Run.beforeScan, hf.checkpoint]
  cases hsaves : r.checkpoint with
  | true => exact hf.roundTrip hsaves
  | false => exact ⟨h, rfl, hf⟩

/-! ### Scans -/

theorem Follows.afterScan (hf : Follows checked h r) (entry : Boundary text) {scan : Scan}
    (hconfig : scan.after.config = r.scanner.config) :
    ComesTo checked (r.afterScan scan) (h.afterScan entry scan) := by
  obtain rfl := hf.checks
  have hspared : (h.checked && (r.afterScan scan).overflowed) =
      (h.checked && scan.reading.overflowed) := by
    show (h.checked && (r.overflowed || scan.reading.overflowed)) = _
    rw [Bool.and_or_distrib_left, hf.spared, Bool.false_or]
  rw [ComesTo, Comes, hspared, Host.afterScan]
  split
  · -- a count goes over in this scan, and the host says so
    rfl
  · next hcounted =>
    refine ⟨_, rfl, ?_⟩
    exact { hf with
      isOver := ⟨hf.isOver.size, hf.isOver.place⟩
      scanner := rfl
      room := hconfig ▸ hf.room
      spared := hspared.trans (Bool.eq_false_iff.mpr hcounted)
      trace := by
        show _ ++ h.trace = _ ++ r.trace
        rw [hf.trace] }

/-- Behind the token that a scan has found, the host is where the run is. -/
theorem Follows.behindToken {valid : TokenSet}
    (hf : Follows checked h (r.beforeScan.afterScan (r.scanAhead valid)))
    (hover : (r.scan valid).2.IsOver text.toList) :
    ComesWith checked (r.scan valid) (h.behindToken (r.scanAhead valid)) := by
  rw [Host.behindToken]
  cases hkind : (r.scanAhead valid).kind? with
  | none =>
    rw [r.scan_of_none valid hkind]
    exact hf.comesWith none
  | some kind =>
    rw [r.scan_of_some valid hkind] at hover ⊢
    have hspan : newSpan (r.scanAhead valid).cursor.first.offset
        (r.scanAhead valid).cursor.last.offset = .ok (r.scanAhead valid).cursor.span :=
      if_pos (r.scanAhead valid).offset_first_le_last
    have htokens : h.tokens = r.tokens := hf.tokens.trans r.tokens_beforeScan
    simp only [hspan, ok_bind, htokens]
    refine .ok hf.spared ⟨rfl, ?_⟩
    exact { hf with
      isOver := hover
      pos := rfl
      tokens := rfl }

/-- A token is scanned for from where the run is. -/
theorem Follows.scan (hf : Follows checked h r) (valid : TokenSet) :
    ComesWith checked (r.scan valid) (h.scan valid) := by
  obtain ⟨h', hbefore, hf'⟩ := hf.beforeScan
  have hahead : h'.scanner.scan valid hf'.boundary.1 = r.scanAhead valid := by
    rw [hf'.scanner, Run.scanAhead, ← r.place_beforeScan]
    rfl
  rw [Host.scan, hbefore, ok_bind, hf'.scanStart, ok_bind, hahead]
  refine (hf'.afterScan _ rfl).andThen ?_ ?_
  · -- the token found changes nothing about the counts
    rw [Run.overflowed_scan, ← r.overflowed_beforeScan]
    exact id
  · intro later hlater
    exact hlater.behindToken (hf.isOver.scan valid)

/-- A token is scanned for, and an issue is noted where none is found. -/
theorem Follows.expect (hf : Follows checked h r) (valid : TokenSet) (cause : Cause) :
    ComesTo checked (r.expect valid cause) (h.expect valid cause) := by
  rw [Host.expect, Run.expect]
  rcases hscan : r.scan valid with ⟨_ | kind, next⟩
  · exact (hf.scan _).bindWith hscan (Run.walks_raise cause) fun _ hf' => (hf'.raise cause).comes
  · exact (hf.scan _).bindWith hscan Walks.refl fun _ hf' => hf'.comes

end Follows

end Host

end TemplateScan.Document
