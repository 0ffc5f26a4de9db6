import Mathlib.Data.List.Nodup
import TemplateScan.Golden.Manifest

/-!
# Manifests that are accepted

However the tables of a manifest are read, its cases are accepted if the format is the supported
one, no identifier comes twice, and each case that is not simply checked says why.

* `checkCases_eq_ok_iff`: one pass over the cases finds whether this is so.
* `parseManifest_eq_ok_iff`: the manifests that are accepted.
-/

namespace TemplateScan.Golden

/-- The case is checked, or it gives a reason. -/
def GoldenCase.IsExplained (c : GoldenCase) : Prop :=
  c.status = .active ∨ c.reason.getD "" ≠ ""

/-- Behind the identifiers seen, the pass goes through if none of them comes again, none comes twice
and all cases are explained. -/
theorem checkCases_eq_ok_iff (seen : List String) (cases : List GoldenCase) :
    checkCases seen cases = .ok () ↔
      (∀ c ∈ cases, c.id ∉ seen) ∧ (cases.map GoldenCase.id).Nodup ∧
        ∀ c ∈ cases, c.IsExplained := by
  induction cases generalizing seen with
  | nil => simp [checkCases]
  | cons c later ih =>
    have hexplained : (c.status ≠ .active && c.reason.getD "" = "") = false ↔ c.IsExplained := by
      simp [GoldenCase.IsExplained, or_iff_not_imp_left]
    rw [checkCases, List.map_cons, List.nodup_cons, List.forall_mem_cons, List.forall_mem_cons]
    split
    · next hseen => simp [List.contains_iff_mem.mp hseen]
    split
    · next hmissing =>
      have hnot : ¬c.IsExplained :=
        fun h => Bool.false_ne_true ((hexplained.mpr h).symm.trans hmissing)
      simp [hnot]
    · next hseen hmissing =>
      have hnew : c.id ∉ seen := fun hmem => hseen (List.contains_iff_mem.mpr hmem)
      have hc : c.IsExplained := hexplained.mp (Bool.eq_false_iff.mpr hmissing)
      -- that no later case has this identifier is asked by the pass through the later ones
      have hlater : (∀ d ∈ later, d.id ∉ c.id :: seen) ↔
          c.id ∉ later.map GoldenCase.id ∧ ∀ d ∈ later, d.id ∉ seen := by
        simp only [List.mem_cons, not_or, List.mem_map, not_exists, not_and]
        exact ⟨fun h => ⟨fun d hd => (h d hd).1, fun d hd => (h d hd).2⟩,
          fun h d hd => ⟨h.1 d hd, h.2 d hd⟩⟩
      rw [ih, hlater]
      simp only [hnew, hc, not_false_eq_true, true_and]
      tauto

/-- **The manifests that are accepted.**  However the tables are read, the cases that a manifest
tells of are those of its tables, and they are accepted if and only if the format is the supported
one, no identifier comes twice, and every case that is not simply checked gives a reason. -/
theorem parseManifest_eq_ok_iff (tables? : String → Option ManifestTables) (content : String)
    (cases : List GoldenCase) :
    parseManifest tables? content = .ok cases ↔
      (tables? content).bind ManifestTables.goldenCases? = some (manifestFormat, cases) ∧
        (cases.map GoldenCase.id).Nodup ∧ ∀ c ∈ cases, c.IsExplained := by
  have hcheck := checkCases_eq_ok_iff [] cases
  simp only [List.not_mem_nil, not_false_eq_true, implies_true, true_and] at hcheck
  rw [← hcheck, parseManifest]
  rcases (tables? content).bind ManifestTables.goldenCases? with _ | ⟨format, found⟩
  · simp
  dsimp only
  split
  · next hformat => simp [hformat]
  · next hformat =>
    obtain rfl : format = manifestFormat := not_not.mp hformat
    rcases hfound : checkCases [] found with e | ⟨⟩
    · simp only [reduceCtorEq, Option.some.injEq, Prod.mk.injEq, true_and, false_iff, not_and]
      rintro rfl
      simp [hfound]
    · simp only [Except.ok.injEq, Option.some.injEq, Prod.mk.injEq, true_and]
      constructor
      · rintro rfl
        exact ⟨rfl, hfound⟩
      · exact fun h => h.1

end TemplateScan.Golden
