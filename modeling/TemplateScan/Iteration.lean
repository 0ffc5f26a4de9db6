/-!
# Iteration

A loop whose end is not plain from its shape: it repeats a step as long as a measure gets less.  For
a step that lessens the measure whenever it goes on, this is the loop without the measure.

* `iterate_of_lt`: such a step is repeated, `iterate_of_inl`: a step that stops gives its result.
-/

namespace TemplateScan

/-- Repeats a step as long as it goes on (`inr`) and what `left` measures gets less; `stuck` gives
the result where it does not get less. -/
def iterate {σ ρ : Type} (left : σ → Nat) (step : σ → ρ ⊕ σ) (stuck : σ → ρ) (s : σ) : ρ :=
  match step s with
  | .inl result => result
  | .inr next => if left next < left s then iterate left step stuck next else stuck next
termination_by left s

theorem iterate_of_inl {σ ρ : Type} {left : σ → Nat} {step : σ → ρ ⊕ σ} {stuck : σ → ρ} {s : σ}
    {result : ρ}
    (stops : step s = .inl result) : iterate left step stuck s = result := by
  rw [iterate, stops]

theorem iterate_of_lt {σ ρ : Type} {left : σ → Nat} {step : σ → ρ ⊕ σ} {stuck : σ → ρ} {s next : σ}
    (goesOn : step s = .inr next) (less : left next < left s) :
    iterate left step stuck s = iterate left step stuck next := by
  rw [iterate, goesOn]
  simp [less]

end TemplateScan
