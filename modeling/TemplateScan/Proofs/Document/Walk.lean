import TemplateScan.Proofs.Document.Reading
import TemplateScan.Proofs.Document.Scans

/-!
# Walks through a text

Whatever moves a run makes over a text, it stays at character boundaries of it and never goes back.

* `IsOver`: a run knows the size of a text and is at a character boundary of it.
* `Move.isOver`, `Move.offset_le`: a move keeps to the text and does not lead back.
* `Walks`, `Advances`: a run leads to another one by moves, and gets further.
* `advances_next`, `advances_of_scan` and the like: the moves that get further.
* `Leads`: each step of a loop goes by moves, and makes progress if it goes on.
-/

namespace TemplateScan.Document

open Text TokenSet

namespace Run

/-! ## Moves over a text -/

/-- The run knows the size of the text and is at a character boundary of it. -/
structure IsOver (text : List Char) (r : Run) : Prop where
  size : r.size = Utf8.byteLength text
  place : r.place.IsIn text

/-- A run leads to another one by moves. -/
def Walks (r last : Run) : Prop :=
  Reaches Unrestricted r last

/-- One run is further on than the other. -/
def Further (r next : Run) : Prop :=
  r.place.offset < next.place.offset

/-- A run leads to another one by moves, and over the text it gets further. -/
def Advances (text : List Char) (r last : Run) : Prop :=
  Walks r last ∧ (r.IsOver text → Further r last)

section Moves

variable {text : List Char} {r next last : Run} {p : TokenSet → Prop}

theorem IsOver.scan (hr : r.IsOver text) (valid : TokenSet) : (r.scan valid).2.IsOver text where
  size := by rw [size_scan, hr.size]
  place := by
    cases hkind : (r.scanAhead valid).kind? with
    | none =>
      rw [r.place_scan_of_none valid hkind]
      exact hr.place
    | some kind =>
      rw [r.place_scan_of_some valid hkind]
      exact Scan.last_isIn hr.place

theorem IsOver.toEnd (hr : r.IsOver text) : r.toEnd.IsOver text where
  size := hr.size
  place := by
    show Place.IsIn text ⟨r.size, []⟩
    rw [hr.size]
    exact Place.isIn_end text

theorem Move.isOver (hmove : Move p r next) (hr : r.IsOver text) : next.IsOver text := by
  cases hmove with
  | advance n => exact ⟨hr.size, hr.place.advance n⟩
  | toEnd => exact hr.toEnd
  | raise cause => exact ⟨hr.size, hr.place⟩
  | scan hvalid => exact hr.scan _

/-- No move leads back. -/
theorem Move.offset_le (hmove : Move p r next) (hr : r.IsOver text) :
    r.place.offset ≤ next.place.offset := by
  cases hmove with
  | advance n => exact Place.offset_le_advance _ _
  | toEnd =>
    show r.place.offset ≤ r.size
    rw [hr.size]
    exact hr.place.offset_le
  | raise cause => exact Nat.le_refl _
  | @scan valid =>
    cases hkind : (r.scanAhead valid).kind? with
    | none => rw [r.place_scan_of_none valid hkind]
    | some kind =>
      rw [r.place_scan_of_some valid hkind, Scan.cursor_last]
      exact Place.offset_le_advance _ _

theorem Walks.isOver (hwalk : Walks r last) (hr : r.IsOver text) : last.IsOver text :=
  hwalk.keeps (fun _ _ => Move.isOver) hr

theorem Walks.offset_le (hwalk : Walks r last) (hr : r.IsOver text) :
    r.place.offset ≤ last.place.offset := by
  induction hwalk with
  | refl => exact Nat.le_refl _
  | tail hwalk hlast ih => exact Nat.le_trans ih (hlast.offset_le (Walks.isOver hwalk hr))

theorem Walks.refl : Walks r r :=
  Relation.ReflTransGen.refl

theorem Walks.trans (hwalk : Walks r next) (hlater : Walks next last) : Walks r last :=
  Relation.ReflTransGen.trans hwalk hlater

/-- A count that has gone over is not forgotten. -/
theorem Walks.overflowed (hwalk : Walks r last) (hover : r.overflowed = true) :
    last.overflowed = true := by
  refine hwalk.keeps (P := fun r => r.overflowed = true) ?_ hover
  intro r next hmove hr
  cases hmove with
  | advance | toEnd | raise => exact hr
  | scan => rw [overflowed_scan, hr, Bool.true_or]

theorem Advances.walks (hadvance : Advances text r last) : Walks r last :=
  hadvance.1

theorem Advances.trans (hadvance : Advances text r next) (hlater : Walks next last) :
    Advances text r last := by
  refine ⟨hadvance.walks.trans hlater, fun hr => ?_⟩
  exact Nat.lt_of_lt_of_le (hadvance.2 hr) (hlater.offset_le (hadvance.walks.isOver hr))

theorem Walks.advances (hwalk : Walks r next) (hlater : Advances text next last) :
    Advances text r last := by
  refine ⟨hwalk.trans hlater.walks, fun hr => ?_⟩
  exact Nat.lt_of_le_of_lt (hwalk.offset_le hr) (hlater.2 (hwalk.isOver hr))

/-- A procedure leads to its result by moves. -/
theorem Procedure.walks {α : Type} {c : Run → α × Run} (hc : Procedure p c) (r : Run) :
    Walks r (c r).2 :=
  (hc.mono fun _ _ => trivial).reaches r

theorem Acts.walks {f : Run → Run} (hf : Acts p f) (r : Run) : Walks r (f r) :=
  Procedure.walks hf r

end Moves

/-! ## Single moves -/

section Single

variable {text : List Char} {r last : Run} {n : Nat} {c : Char}

theorem walks_advance : Walks r (r.advance n) :=
  .single (.advance r n)

theorem walks_raise (cause : Cause) : Walks r (r.raise cause) :=
  .single (.raise r cause)

theorem walks_skipBlanks : Walks r r.skipBlanks :=
  (acts_skipBlanks (p := Unrestricted)).walks r

theorem advances_advance (hn : 0 < n) (hne : r.ahead ≠ []) : Advances text r (r.advance n) :=
  ⟨walks_advance, fun _ => Place.offset_lt_advance hn hne⟩

theorem exists_ahead (hnext : r.next? = some c) : ∃ rest, r.ahead = c :: rest :=
  List.head?_eq_some_iff.mp hnext

theorem ahead_ne_nil (hnext : r.next? = some c) : r.ahead ≠ [] := by
  obtain ⟨rest, hahead⟩ := exists_ahead hnext
  simp [hahead]

/-- Going over the character that is ahead. -/
theorem advances_char (hne : r.ahead ≠ []) : Advances text r (r.advance 1) :=
  advances_advance Nat.one_pos hne

theorem advances_next (hnext : r.next? = some c) : Advances text r (r.advance 1) :=
  advances_char (ahead_ne_nil hnext)

/-- Going over a run of a class gets further where a character of the class is ahead. -/
theorem advances_skipWhile {inClass : Char → Bool} (hnext : r.next?.any inClass = true) :
    Advances text r (r.skipWhile inClass) := by
  obtain ⟨c, hc, hclass⟩ := (Option.any_eq_true _ _).mp hnext
  obtain ⟨rest, hahead⟩ := exists_ahead hc
  refine advances_advance ?_ (ahead_ne_nil hc)
  show 0 < (r.ahead.takeWhile inClass).length
  simp [hahead, hclass]

theorem advances_toEnd (hne : r.ahead ≠ []) : Advances text r r.toEnd := by
  refine ⟨.single (.toEnd r), fun hr => ?_⟩
  show r.place.offset < r.size
  rw [hr.size, ← hr.place.offset_add]
  exact Nat.lt_add_of_pos_right (Utf8.byteLength_pos hne)

variable {valid : TokenSet} {kind? : Option TokenKind} {kind : TokenKind}

theorem walks_of_scan (hscan : r.scan valid = (kind?, last)) : Walks r last := by
  have hmove : Move Unrestricted r (r.scan valid).2 := .scan r trivial
  rw [hscan] at hmove
  exact .single hmove

theorem advances_of_scan (hscan : r.scan valid = (some kind, last))
    (hempty : kind.mayBeEmpty = false) : Advances text r last :=
  ⟨walks_of_scan hscan, fun _ => offset_lt_scan hscan hempty⟩

end Single

/-! ## Loops -/

section Loop

variable {text : List Char} {σ ρ : Type} {left : σ → Nat} {step : σ → ρ ⊕ σ} {stuck : σ → ρ}
  {runOf : σ → Run} {lastOf : ρ → Run} {Goes : σ → σ → Prop}

/-- Each step of a loop, over states and to results that hold a run each, stops or goes on by moves,
and where it goes on from a run over the text it makes progress. -/
def Leads (text : List Char) (runOf : σ → Run) (lastOf : ρ → Run) (Goes : σ → σ → Prop)
    (step : σ → ρ ⊕ σ) : Prop :=
  ∀ s, (step s).elim (fun result => Walks (runOf s) (lastOf result)) fun next =>
    Walks (runOf s) (runOf next) ∧ ((runOf s).IsOver text → Goes s next)

/-- A loop whose steps go by moves goes by moves. -/
theorem Leads.walks_iterate (hleads : Leads text runOf lastOf Goes step)
    (hstuck : ∀ s, lastOf (stuck s) = runOf s) (s : σ) :
    Walks (runOf s) (lastOf (iterate left step stuck s)) := by
  refine iterate_related (fun _ => Walks.refl) Walks.trans ?_ hstuck s
  intro next
  have hstep := hleads next
  rcases hnext : step next with result | later
  · rwa [hnext] at hstep
  · rw [hnext] at hstep
    exact hstep.1

end Loop

end Run

end TemplateScan.Document
