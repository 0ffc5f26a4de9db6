import Mathlib.Logic.Relation
import TemplateScan.Document.Parse

/-!
# Procedures on runs

All that reads a document is put together from four moves of a run: going on, going to the end,
noting an issue and scanning.  What is done next depends on the place, on the delimiters in force
and on the kinds of the tokens found, and on nothing else of the run.  Of a name that closes a
section it only matters whether one is found, not whether the section is open.  A *procedure* is
what is put together in this way.  Its scans may be restricted, such as to those that let no element
begin: `p` tells the sets of kinds that it may scan for.

* `Procedure.reaches`: a procedure gets from a run to its result by moves, so what every move keeps
  it keeps.
* `Procedure.mono`: what keeps to some scans keeps to more.
* `Procedure.follows`: two runs that moves keep in step are kept in step by every procedure.
* `iterate_map`: a loop over states of another form is the same loop.
-/

namespace TemplateScan

/-! ## Loops -/

section Iterate

variable {σ ρ τ μ : Type} {left : σ → Nat} {step : σ → ρ ⊕ σ} {stuck : σ → ρ}

/-- What each step keeps holds of the result if it is enough where a loop ends. -/
theorem iterate_induction (P : σ → Prop) (Q : ρ → Prop)
    (hstop : ∀ s result, P s → step s = .inl result → Q result)
    (hgo : ∀ s next, P s → step s = .inr next → P next) (hstuck : ∀ s, P s → Q (stuck s)) {s : σ}
    (hs : P s) : Q (iterate left step stuck s) := by
  -- the induction is on the measure, which the loop asks to get less before it goes on
  induction hmeasure : left s using Nat.strongRecOn generalizing s with
  | _ n ih =>
    rw [iterate]
    split
    · next result hstep => exact hstop s result hs hstep
    · next next hstep =>
      have hnext := hgo s next hs hstep
      split
      · next hless => exact ih (left next) (hmeasure ▸ hless) hnext rfl
      · -- the measure has not got less, so this is where the loop ends
        exact hstuck next hnext

/-- What each step is related to by a relation that is reflexive and transitive, a loop is related
to by it. -/
theorem iterate_related {R : τ → τ → Prop} (hrefl : ∀ t, R t t)
    (htrans : ∀ {a b c}, R a b → R b c → R a c) {f : σ → τ} {g : ρ → τ}
    (hstep : ∀ s, R (f s) ((step s).elim g f)) (hstuck : ∀ s, g (stuck s) = f s) (s : σ) :
    R (f s) (g (iterate left step stuck s)) := by
  -- what is kept is that the beginning is related to the state at hand
  refine iterate_induction (fun next => R (f s) (f next)) (fun result => R (f s) (g result))
    ?_ ?_ ?_ (hrefl _)
  · intro next result hnext hstop
    have hlast := hstep next
    rw [hstop] at hlast
    exact htrans hnext hlast
  · intro next later hnext hgo
    have hlater := hstep next
    rw [hgo] at hlater
    exact htrans hnext hlater
  · intro next hnext
    rwa [hstuck]

/-- A loop whose states and results are written in another form. -/
theorem iterate_map {left' : τ → Nat} {step' : τ → μ ⊕ τ} {stuck' : τ → μ} {f : σ → τ} {g : ρ → μ}
    (hleft : ∀ s, left' (f s) = left s) (hstep : ∀ s, step' (f s) = (step s).map g f)
    (hstuck : ∀ s, stuck' (f s) = g (stuck s)) (s : σ) :
    iterate left' step' stuck' (f s) = g (iterate left step stuck s) := by
  induction hmeasure : left s using Nat.strongRecOn generalizing s with
  | _ n ih =>
    rw [iterate, hstep, iterate]
    cases hs : step s with
    | inl result => rfl
    | inr next =>
      -- both loops measure the same, so both go on or neither does
      simp only [Sum.map_inr, hleft]
      split
      · next hless => exact ih (left next) (hmeasure ▸ hless) next rfl
      · exact hstuck next

end Iterate

/-- No name in a closing section tag is admissible, so no kind of token tells what section is
open. -/
def TokenSet.NoSectionEnd (valid : TokenSet) : Prop :=
  valid.contains .mustacheEndSectionName = false ∧
    valid.contains .mustacheErroneousEndSectionName = false

namespace Document

open Text Mustache

namespace Run

/-! ## Moves -/

/-- One move of a run, which scans for certain sets of kinds only. -/
inductive Move (p : TokenSet → Prop) : Run → Run → Prop where
  | advance (r : Run) (n : Nat) : Move p r (r.advance n)
  | toEnd (r : Run) : Move p r r.toEnd
  | raise (r : Run) (cause : Cause) : Move p r (r.raise cause)
  | scan (r : Run) {valid : TokenSet} (hvalid : p valid) : Move p r (r.scan valid).2

/-- A run comes from another by moves. -/
abbrev Reaches (p : TokenSet → Prop) : Run → Run → Prop :=
  Relation.ReflTransGen (Move p)

variable {p q : TokenSet → Prop}

/-- What every move keeps holds of every run reached. -/
theorem Reaches.keeps {P : Run → Prop} (hmove : ∀ r next, Move p r next → P r → P next)
    {r last : Run} (hreach : Reaches p r last) (hr : P r) : P last := by
  induction hreach with
  | refl => exact hr
  | tail _ hlast ih => exact hmove _ _ hlast ih

/-! ## Loops over runs -/

section Loop

variable {α β : Type}

/-- The outcome of a step, its run put into both ways to go on. -/
def splitOutcome : (β ⊕ α) × Run → (β × Run) ⊕ (α × Run)
  | (.inl b, r) => .inl (b, r)
  | (.inr a, r) => .inr (a, r)

/-- The outcome of a step, what it passes on put beside its run. -/
def joinOutcome : (β × Run) ⊕ (α × Run) → (β ⊕ α) × Run
  | .inl (b, r) => (.inl b, r)
  | .inr (a, r) => (.inr a, r)

@[simp] theorem splitOutcome_joinOutcome (x : (β × Run) ⊕ (α × Run)) :
    splitOutcome (joinOutcome x) = x := by
  rcases x with ⟨b, r⟩ | ⟨a, r⟩
  · rfl
  · rfl

/-- Splitting an outcome keeps its run. -/
theorem elim_splitOutcome (x : (β ⊕ α) × Run) : (splitOutcome x).elim Prod.snd Prod.snd = x.2 := by
  rcases x with ⟨b | a, r⟩
  · rfl
  · rfl

/-- Repeats a step that passes a value on, as long as what the value, the size of the text and the
place measure gets less. -/
def loop (left : α → Nat → Place → Nat) (step : α → Run → (β ⊕ α) × Run) (stuck : α → β) (a : α)
    (r : Run) : β × Run :=
  iterate (fun s : α × Run => left s.1 s.2.size s.2.place) (fun s => splitOutcome (step s.1 s.2))
    (fun s => (stuck s.1, s.2)) (a, r)

/-- A loop over states of another form is a loop that passes a value on. -/
theorem loop_eq_iterate {σ ρ : Type} {left : σ → Nat} {step : σ → ρ ⊕ σ} {stuck : σ → ρ}
    (f : σ → α × Run) (g : ρ → β × Run) {left' : α → Nat → Place → Nat}
    {step' : α → Run → (β ⊕ α) × Run} {stuck' : α → β}
    (hleft : ∀ s, left' (f s).1 (f s).2.size (f s).2.place = left s)
    (hstep : ∀ s, step' (f s).1 (f s).2 = joinOutcome ((step s).map g f))
    (hstuck : ∀ s, (stuck' (f s).1, (f s).2) = g (stuck s)) (s : σ) :
    loop left' step' stuck' (f s).1 (f s).2 = g (iterate left step stuck s) := by
  -- a step that hands its run on is, split again, the step of the other form
  have hsplit : ∀ s, splitOutcome (step' (f s).1 (f s).2) = (step s).map g f := by
    intro s
    rw [hstep, splitOutcome_joinOutcome]
  exact @iterate_map _ _ _ _ left step stuck (fun t => left' t.1 t.2.size t.2.place)
    (fun t => splitOutcome (step' t.1 t.2)) (fun t => (stuck' t.1, t.2)) f g hleft hsplit hstuck s

theorem loop_of_inl {left : α → Nat → Place → Nat} {step : α → Run → (β ⊕ α) × Run} {stuck : α → β}
    {a : α} {r : Run} {b : β} {last : Run} (hstop : step a r = (.inl b, last)) :
    loop left step stuck a r = (b, last) :=
  iterate_of_inl (by rw [hstop]; rfl)

theorem loop_of_inr {left : α → Nat → Place → Nat} {step : α → Run → (β ⊕ α) × Run} {stuck : α → β}
    {a a' : α} {r next : Run} (hgo : step a r = (.inr a', next)) :
    loop left step stuck a r =
      if left a' next.size next.place < left a r.size r.place then loop left step stuck a' next
      else (stuck a', next) := by
  rw [loop, iterate, hgo]
  rfl

/-- A loop gets to its result by moves if its step does. -/
theorem reaches_loop (left : α → Nat → Place → Nat) {step : α → Run → (β ⊕ α) × Run} (stuck : α → β)
    (hreach : ∀ a r, Reaches p r (step a r).2) (a : α) (r : Run) :
    Reaches p r (loop left step stuck a r).2 := by
  -- moves compose, so it is enough to look at one step, of which the value passed on is forgotten
  refine iterate_related (R := Reaches p) (f := Prod.snd) (g := Prod.snd)
    (fun _ => .refl) Relation.ReflTransGen.trans ?_ ?_ (a, r)
  · intro s
    rw [elim_splitOutcome]
    exact hreach s.1 s.2
  · exact fun _ => rfl

end Loop

/-! ## Procedures -/

/-- What is put together from moves, with a result that decides what is done next. -/
inductive Procedure (p : TokenSet → Prop) : {α : Type} → (Run → α × Run) → Prop where
  /-- Nothing is done. -/
  | done {α : Type} (a : α) : Procedure p fun r => (a, r)
  | advance (n : Nat) : Procedure p fun r => ((), r.advance n)
  | toEnd : Procedure p fun r => ((), r.toEnd)
  | raise (cause : Cause) : Procedure p fun r => ((), r.raise cause)
  | scan (valid : TokenSet) (hvalid : p valid) (hseen : valid.NoSectionEnd) :
      Procedure p fun r => r.scan valid
  /-- It only matters whether a token is found. -/
  | expect (valid : TokenSet) (hvalid : p valid) (cause : Cause) :
      Procedure p fun r => ((), r.expect valid cause)
  /-- The place and the delimiters decide what is done. -/
  | look {α : Type} {k : Place → Delimiters → Run → α × Run}
      (hk : ∀ here d, Procedure p (k here d)) :
      Procedure p fun r => k r.place r.scanner.state.delimiters r
  /-- One procedure after the other. -/
  | andThen {α β : Type} {c : Run → α × Run} {k : α → Run → β × Run} (hc : Procedure p c)
      (hk : ∀ a, Procedure p (k a)) : Procedure p fun r => k (c r).1 (c r).2
  /-- A procedure is repeated. -/
  | loop {α β : Type} (left : α → Nat → Place → Nat) {step : α → Run → (β ⊕ α) × Run}
      (stuck : α → β) (hstep : ∀ a, Procedure p (step a)) (a : α) :
      Procedure p fun r => loop left step stuck a r

/-- A procedure without a result. -/
abbrev Acts (p : TokenSet → Prop) (f : Run → Run) : Prop :=
  Procedure p fun r => ((), f r)

/-- A procedure with fewer scans to choose from is one with more. -/
theorem Procedure.mono {α : Type} {c : Run → α × Run} (hc : Procedure p c)
    (hscans : ∀ valid, p valid → q valid) : Procedure q c := by
  induction hc with
  | done a => exact .done a
  | advance n => exact .advance n
  | toEnd => exact .toEnd
  | raise cause => exact .raise cause
  | scan valid hvalid hseen => exact .scan valid (hscans valid hvalid) hseen
  | expect valid hvalid cause => exact .expect valid (hscans valid hvalid) cause
  | look _ ih => exact .look ih
  | andThen _ _ ihc ihk => exact .andThen ihc ihk
  | loop left stuck _ a ih => exact .loop left stuck ih a

/-- What is expected is scanned for, and an issue is noted where it is missing. -/
theorem reaches_expect (r : Run) {valid : TokenSet} (hvalid : p valid) (cause : Cause) :
    Reaches p r (r.expect valid cause) := by
  -- the scan is one move, and where it finds nothing the issue is another
  have hmove : Move p r (r.scan valid).2 := .scan r hvalid
  rw [expect]
  rcases hscan : r.scan valid with ⟨_ | kind, next⟩
  · rw [hscan] at hmove
    exact .tail (.single hmove) (.raise next cause)
  · rw [hscan] at hmove
    exact .single hmove

/-- A procedure gets to its result by moves. -/
theorem Procedure.reaches {α : Type} {c : Run → α × Run} (hc : Procedure p c) (r : Run) :
    Reaches p r (c r).2 := by
  induction hc generalizing r with
  | done a => exact .refl
  | advance n => exact .single (.advance r n)
  | toEnd => exact .single (.toEnd r)
  | raise cause => exact .single (.raise r cause)
  | scan valid hvalid _ => exact .single (.scan r hvalid)
  | expect valid hvalid cause => exact reaches_expect r hvalid cause
  | look _ ih => exact ih _ _ r
  | andThen _ _ ihc ihk => exact (ihc r).trans (ihk _ _)
  | loop left stuck _ a ih => exact reaches_loop left stuck ih a r

/-! ## Runs in step -/

/-- Two runs are kept in step by moves, as long as something is true of the first that moves never
make true again once it is false. -/
structure InStep (p : TokenSet → Prop) (Kept : Run → Prop) (R : Run → Run → Prop) : Prop where
  kept_of_move : ∀ {r next}, Move p r next → Kept next → Kept r
  size : ∀ {r r'}, R r r' → r'.size = r.size
  place : ∀ {r r'}, R r r' → r'.place = r.place
  delimiters : ∀ {r r'}, R r r' → r'.scanner.state.delimiters = r.scanner.state.delimiters
  advance : ∀ {r r'} n, R r r' → R (r.advance n) (r'.advance n)
  toEnd : ∀ {r r'}, R r r' → R r.toEnd r'.toEnd
  raise : ∀ {r r'} cause, R r r' → R (r.raise cause) (r'.raise cause)
  scan : ∀ {r r' valid}, p valid → valid.NoSectionEnd → R r r' → Kept (r.scan valid).2 →
    (r'.scan valid).1 = (r.scan valid).1 ∧ R (r.scan valid).2 (r'.scan valid).2
  expect : ∀ {r r' valid} cause, p valid → R r r' → Kept (r.expect valid cause) →
    R (r.expect valid cause) (r'.expect valid cause)

section InStep

variable {Kept : Run → Prop} {R : Run → Run → Prop}

theorem InStep.kept_of_reaches (hstep : InStep p Kept R) {r last : Run} (hreach : Reaches p r last)
    (hlast : Kept last) : Kept r := by
  -- what moves keep is that the first run would be kept if this one were
  have hback : Kept last → Kept r := by
    apply hreach.keeps (P := fun next => Kept next → Kept r)
    · intro next later hmove hnext hlater
      exact hnext (hstep.kept_of_move hmove hlater)
    · exact id
  exact hback hlast

/-- A loop over runs in step has the same result on both. -/
theorem InStep.loop (hstep : InStep p Kept R) {α β : Type} (left : α → Nat → Place → Nat)
    {step : α → Run → (β ⊕ α) × Run} (stuck : α → β) (hreach : ∀ a r, Reaches p r (step a r).2)
    (hone : ∀ a r r', R r r' → Kept (step a r).2 →
      (step a r').1 = (step a r).1 ∧ R (step a r).2 (step a r').2)
    (a : α) {r r' : Run} (hr : R r r') (hkept : Kept (Run.loop left step stuck a r).2) :
    (Run.loop left step stuck a r').1 = (Run.loop left step stuck a r).1 ∧
      R (Run.loop left step stuck a r).2 (Run.loop left step stuck a r').2 := by
  induction hmeasure : left a r.size r.place using Nat.strongRecOn generalizing a r r' with
  | _ n ih =>
    -- what holds at the end of the loop held after its first step, from which moves lead there
    have hlater : Kept (step a r).2 := by
      rcases hs : step a r with ⟨b | a', next⟩
      · rwa [loop_of_inl hs] at hkept
      · rw [loop_of_inr hs] at hkept
        split at hkept
        · exact hstep.kept_of_reaches (reaches_loop left stuck hreach a' next) hkept
        · exact hkept
    obtain ⟨hresult, hrun⟩ := hone a r r' hr hlater
    rcases hs : step a r with ⟨b | a', next⟩
    · rw [hs] at hresult hrun
      have hs' : step a r' = (.inl b, (step a r').2) := Prod.ext hresult rfl
      rw [loop_of_inl hs, loop_of_inl hs']
      exact ⟨rfl, hrun⟩
    · rw [hs] at hresult hrun
      have hs' : step a r' = (.inr a', (step a r').2) := Prod.ext hresult rfl
      rw [loop_of_inr hs] at hkept
      -- sizes and places are those of the first run, so both loops measure the same progress
      rw [loop_of_inr hs, loop_of_inr hs', hstep.size hr, hstep.place hr, hstep.size hrun,
        hstep.place hrun]
      split at hkept
      · next hless =>
        rw [if_pos hless, if_pos hless]
        exact ih _ (hmeasure ▸ hless) a' hrun hkept rfl
      · next hless =>
        rw [if_neg hless, if_neg hless]
        exact ⟨rfl, hrun⟩

/-- A procedure keeps two runs in step, and has the same result on both. -/
theorem Procedure.follows (hstep : InStep p Kept R) {α : Type} {c : Run → α × Run}
    (hc : Procedure p c) {r r' : Run} (hr : R r r') (hkept : Kept (c r).2) :
    (c r').1 = (c r).1 ∧ R (c r).2 (c r').2 := by
  induction hc generalizing r r' with
  | done a => exact ⟨rfl, hr⟩
  | advance n => exact ⟨rfl, hstep.advance n hr⟩
  | toEnd => exact ⟨rfl, hstep.toEnd hr⟩
  | raise cause => exact ⟨rfl, hstep.raise cause hr⟩
  | scan valid hvalid hseen => exact hstep.scan hvalid hseen hr hkept
  | expect valid hvalid cause => exact ⟨rfl, hstep.expect cause hvalid hr hkept⟩
  | look _ ih =>
    -- both runs look at the same place with the same delimiters, so they decide alike
    simp only [hstep.place hr, hstep.delimiters hr]
    exact ih _ _ hr hkept
  | andThen _ hk ihc ihk =>
    -- what is kept at the end is kept in between, where the results agree
    obtain ⟨hresult, hrun⟩ := ihc hr (hstep.kept_of_reaches ((hk _).reaches _) hkept)
    simp only [hresult]
    exact ihk _ hrun hkept
  | loop left stuck hbody a ih =>
    exact hstep.loop left stuck (fun a r => (hbody a).reaches r) (fun a _ _ => ih a) a hr hkept

end InStep

end Run

end Document

end TemplateScan
