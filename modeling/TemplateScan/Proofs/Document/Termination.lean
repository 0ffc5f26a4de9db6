import TemplateScan.Proofs.Document.Order

/-!
# Reading a document ends

A loop repeats its step as long as a measure gets less.  Were there no measure, it would do the
same: each step either stops or makes progress, and progress makes the measure less, so the measure
never cuts a loop short.

* `Iterates`: a loop without a measure comes to a result, with progress at every step.
* `Leads.iterates`: a loop of moves is such a loop, if progress makes its measure less.
* `iterates_document`: so is the loop over a document.
-/

namespace TemplateScan

/-- Repeating a step leads to a result, and whenever the step goes on it makes progress. -/
inductive Iterates {σ ρ : Type} (Goes : σ → σ → Prop) (step : σ → ρ ⊕ σ) : σ → ρ → Prop where
  | stop {s : σ} {result : ρ} (hstop : step s = .inl result) : Iterates Goes step s result
  | go {s next : σ} {result : ρ} (hgo : step s = .inr next) (hgoes : Goes s next)
      (hlater : Iterates Goes step next result) : Iterates Goes step s result

namespace Document

open Text

namespace Run

section Loop

variable {text : List Char} {σ ρ : Type} {left : σ → Nat} {step : σ → ρ ⊕ σ} {stuck : σ → ρ}
  {runOf : σ → Run} {lastOf : ρ → Run} {Goes : σ → σ → Prop}

/-- A loop of moves whose progress makes its measure less is never cut short. -/
theorem Leads.iterates (hleads : Leads text runOf lastOf Goes step)
    (hless : ∀ s next, (runOf next).IsOver text → Goes s next →
      (runOf next).size = (runOf s).size → left next < left s)
    {s : σ} (hs : (runOf s).IsOver text) : Iterates Goes step s (iterate left step stuck s) := by
  induction hmeasure : left s using Nat.strongRecOn generalizing s with
  | _ n ih =>
    have hstep := hleads s
    cases hx : step s with
    | inl result =>
      rw [iterate_of_inl hx]
      exact .stop hx
    | inr next =>
      rw [hx] at hstep
      obtain ⟨hwalk, hgoes⟩ := hstep
      have hnext := hwalk.isOver hs
      have hsize : (runOf next).size = (runOf s).size := by rw [hnext.size, hs.size]
      have hlt := hless s next hnext (hgoes hs) hsize
      rw [iterate_of_lt hx hlt]
      exact .go hx (hgoes hs) (ih _ (hmeasure ▸ hlt) hnext rfl)

end Loop

/-- A run over a text that is further on has less ahead. -/
theorem remaining_lt {text : List Char} {r next : Run} (hnext : next.IsOver text)
    (hsize : next.size = r.size) (hfurther : Further r next) : next.remaining < r.remaining := by
  have hend := hnext.place.offset_add
  rw [← hnext.size, hsize] at hend
  rw [remaining, remaining, hsize]
  rw [Further] at hfurther
  omega

/-- What is closer to the end of a document has less left of it. -/
theorem documentLeft_lt {text : List Char} {s next : Run × Nat} (hnext : next.1.IsOver text)
    (hsize : next.1.size = s.1.size) (hcloser : Closer s next) :
    documentLeft next < documentLeft s := by
  rw [documentLeft, documentLeft]
  rcases hcloser with ⟨hfurther, hdepth⟩ | ⟨hsame, hdepth⟩
  · -- an element that begins takes away a byte at least, which counts twice
    have hremaining := remaining_lt hnext hsize hfurther
    omega
  · have hremaining : next.1.remaining = s.1.remaining := by
      rw [remaining, remaining, hsize, hsame]
    omega

/-- Each step gets closer to the end, so the loop over a document is not cut short. -/
theorem iterates_document (scanner : Scanner) (checkpoint : Bool) (text : String) :
    Iterates Closer documentStep (start scanner checkpoint text, 0)
      (start scanner checkpoint text).document := by
  apply (leads_documentStep text.toList).iterates _ (isOver_start scanner checkpoint text)
  intro s next hnext hcloser hsize
  exact documentLeft_lt hnext hsize hcloser

end Run

end Document

end TemplateScan
