import TemplateScan.Proofs.Document.Termination
import TemplateScan.Proofs.Host.Follows

/-!
# Loops of hosts

A loop of a host goes on as long as the loop of the run does, whose steps make progress.  So it
ends, and the measure that it is given never cuts it short.

* `Completes`: repeating a step comes to an end, with progress whenever it goes on.
* `Comes.repeatStep`: a loop of a host comes to what the loop of the run comes to, and completes.
-/

namespace TemplateScan.Document

/-- Repeating a step leads to an end, which is a result or a fault, and whenever the step goes on it
makes progress. -/
inductive Completes {σ ρ : Type} (Goes : σ → σ → Prop) (step : σ → Except Fault (ρ ⊕ σ)) :
    σ → Except Fault ρ → Prop where
  | stop {s : σ} {result : ρ} (hstop : step s = .ok (.inl result)) :
      Completes Goes step s (.ok result)
  | fault {s : σ} {fault : Fault} (hfault : step s = .error fault) :
      Completes Goes step s (.error fault)
  | go {s next : σ} {last : Except Fault ρ} (hgo : step s = .ok (.inr next)) (hgoes : Goes s next)
      (hlater : Completes Goes step next last) : Completes Goes step s last

section RepeatStep

variable {σ ρ : Type} {left : σ → Nat} {step : σ → Except Fault (ρ ⊕ σ)}

/-- A loop does its step and, where this goes on and gets closer to the end, goes on. -/
theorem repeatStep_eq_bind (left : σ → Nat) (step : σ → Except Fault (ρ ⊕ σ)) (s : σ) :
    repeatStep left step s = step s >>= fun
      | .inl result => .ok result
      | .inr next => if left next < left s then repeatStep left step next else .error .endless := by
  rw [repeatStep, iterate]
  rcases step s with fault | result | next
  · rfl
  · rfl
  · rfl

end RepeatStep

namespace Host

open Run (Leads Walks)

section Loop

variable {text : String} {checked : Bool} {σ ρ τ μ : Type}
  {left : σ → Nat} {step : σ → Except Fault (ρ ⊕ σ)} {left' : τ → Nat} {step' : τ → μ ⊕ τ}
  {stuck : τ → μ} {runOf : τ → Run} {Goes : σ → σ → Prop} {Goes' : τ → τ → Prop}

/-- A loop of a host over states that belong to those of a loop of a run.  If each step comes to
what the step of the run comes to, and the run makes progress, the loop comes to what that of the
run comes to, with progress at each step that goes on. -/
theorem Comes.repeatStep (R : σ → τ → Prop) (Q : ρ → μ → Prop) (lastOf : μ → Run)
    (hleads : Leads text.toList runOf lastOf Goes' step')
    (hstuck : ∀ t, lastOf (stuck t) = runOf t)
    (hover : ∀ {s t}, R s t → (runOf t).IsOver text.toList)
    (hleft : ∀ {s t}, R s t → left s = left' t)
    (hless : ∀ {t t'}, (runOf t').IsOver text.toList → Goes' t t' →
      (runOf t').size = (runOf t).size → left' t' < left' t)
    (hgoes : ∀ {s t s' t'}, R s t → R s' t' → Goes' t t' → Goes s s')
    (hstep : ∀ {s t}, R s t →
      Comes checked ((step' t).elim lastOf runOf) (Sum.LiftRel Q R · (step' t)) (step s))
    {s : σ} {t : τ} (hR : R s t) :
    Comes checked (lastOf (iterate left' step' stuck t)) (Q · (iterate left' step' stuck t))
        (Document.repeatStep left step s) ∧
      Completes Goes step s (Document.repeatStep left step s) := by
  -- the induction is on the measure of the run, which the host shares
  induction hmeasure : left' t using Nat.strongRecOn generalizing s t with
  | _ n ih =>
    have hone := hstep hR
    rw [repeatStep_eq_bind]
    rcases hx : step' t with result | next
    · rw [hx] at hone
      rw [iterate_of_inl hx]
      rcases hone.cases with ⟨_, hstop, hspared, ⟨hQ⟩⟩ | ⟨hfault, hspared⟩
      · rw [hstop]
        exact ⟨.ok hspared hQ, .stop hstop⟩
      · rw [hfault]
        exact ⟨.fault hspared id, .fault hfault⟩
    · rw [hx] at hone
      obtain ⟨hwalk, hgo⟩ : Walks (runOf t) (runOf next) ∧
          ((runOf t).IsOver text.toList → Goes' t next) := by
        have hleads := hleads t
        rwa [hx] at hleads
      -- progress makes the measure less, so neither loop is cut short
      have hnext := hwalk.isOver (hover hR)
      have hlt : left' next < left' t :=
        hless hnext (hgo (hover hR)) (by rw [hnext.size, (hover hR).size])
      rw [iterate_of_lt hx hlt]
      rcases hone.cases with ⟨_, hgoesOn, -, hrelated⟩ | ⟨hfault, hspared⟩
      · cases hrelated with
        | @inr later _ hR' =>
          have hlt' : left later < left s := by rwa [hleft hR', hleft hR]
          obtain ⟨hcomes, hcompletes⟩ := ih _ (hmeasure ▸ hlt) hR' rfl
          rw [hgoesOn, ok_bind]
          dsimp only
          rw [if_pos hlt']
          exact ⟨hcomes, .go hgoesOn (hgoes hR hR' (hgo (hover hR))) hcompletes⟩
      · rw [hfault]
        exact ⟨.fault hspared (hleads.walks_iterate hstuck next).overflowed, .fault hfault⟩

end Loop

end Host

end TemplateScan.Document
