import TemplateScan.Proofs.Document.Progress

/-!
# Tokens and issues come in order

What a run has found and noted lies behind it: no token overlaps the one before, no issue is noted
before an earlier one, and all of these are at character boundaries.  Moves keep this up, since they
never lead back and a token begins where the run is, or further on.

* `InOrder`: what a run has found lies in order behind it.
* `Move.inOrder`: one move keeps this up.
* `Outcome.InOrder`, `inOrder_runWith`: so it is at the end of every document.
-/

namespace TemplateScan.Document

open Text

namespace Run

/-- What a run over the text has found and noted lies in order behind it. -/
structure InOrder (text : List Char) (r : Run) : Prop where
  tokens_isIn : ∀ t ∈ r.tokens, t.span.IsIn text
  tokens_behind : ∀ t ∈ r.tokens, t.span.stop ≤ r.place.offset
  tokens_ordered : r.tokens.Pairwise fun later t => t.span.stop ≤ later.span.start
  issues_isBoundary : ∀ i ∈ r.issues, IsBoundary text i.position
  issues_behind : ∀ i ∈ r.issues, i.position ≤ r.place.offset
  issues_ordered : r.issues.Pairwise fun later i => i.position ≤ later.position

section InOrder

variable {text : List Char} {r next : Run}

/-- What is in order stays so further on. -/
theorem InOrder.further (hr : r.InOrder text) (htokens : next.tokens = r.tokens)
    (hissues : next.issues = r.issues) (hle : r.place.offset ≤ next.place.offset) :
    next.InOrder text where
  tokens_isIn := htokens ▸ hr.tokens_isIn
  tokens_behind := by
    rw [htokens]
    exact fun t ht => Nat.le_trans (hr.tokens_behind t ht) hle
  tokens_ordered := htokens ▸ hr.tokens_ordered
  issues_isBoundary := hissues ▸ hr.issues_isBoundary
  issues_behind := by
    rw [hissues]
    exact fun i hi => Nat.le_trans (hr.issues_behind i hi) hle
  issues_ordered := hissues ▸ hr.issues_ordered

/-- An issue that is noted where the run is comes last. -/
theorem InOrder.raise (hr : r.InOrder text) (hplace : r.place.IsIn text) (cause : Cause) :
    (r.raise cause).InOrder text where
  tokens_isIn := hr.tokens_isIn
  tokens_behind := hr.tokens_behind
  tokens_ordered := hr.tokens_ordered
  issues_isBoundary := List.forall_mem_cons.mpr ⟨hplace.isBoundary, hr.issues_isBoundary⟩
  issues_behind := List.forall_mem_cons.mpr ⟨Nat.le_refl _, hr.issues_behind⟩
  issues_ordered := List.pairwise_cons.mpr ⟨hr.issues_behind, hr.issues_ordered⟩

/-- A token that is found from the run on comes last. -/
theorem InOrder.scan {valid : TokenSet} (hr : r.InOrder text)
    (hspan : (r.scanAhead valid).cursor.span.IsIn text) : (r.scan valid).2.InOrder text := by
  cases hkind : (r.scanAhead valid).kind? with
  | none =>
    apply hr.further
    · rw [tokens_scan, Scan.token?, hkind]
      rfl
    · exact r.issues_scan valid
    · rw [r.place_scan_of_none valid hkind]
  | some kind =>
    have htokens : (r.scan valid).2.tokens =
        ⟨kind, (r.scanAhead valid).cursor.span⟩ :: r.tokens := by
      rw [tokens_scan, Scan.token?, hkind]
      rfl
    have hfirst : r.place.offset ≤ (r.scanAhead valid).cursor.span.start :=
      Scan.offset_entry_le_first (r.scanAhead valid)
    have hstop : (r.scan valid).2.place.offset = (r.scanAhead valid).cursor.span.stop :=
      congrArg Place.offset (r.place_scan_of_some valid hkind)
    have hle : r.place.offset ≤ (r.scan valid).2.place.offset := by
      rw [hstop]
      exact Nat.le_trans hfirst hspan.le
    -- all that was found before ends where the run was
    have hbehind : ∀ t ∈ r.tokens, t.span.stop ≤ (r.scanAhead valid).cursor.span.start :=
      fun t ht => Nat.le_trans (hr.tokens_behind t ht) hfirst
    have hissues := r.issues_scan valid
    exact {
      tokens_isIn := by
        rw [htokens]
        exact List.forall_mem_cons.mpr ⟨hspan, hr.tokens_isIn⟩
      tokens_behind := by
        rw [htokens]
        refine List.forall_mem_cons.mpr ⟨Nat.le_of_eq hstop.symm, fun t ht => ?_⟩
        exact Nat.le_trans (hr.tokens_behind t ht) hle
      tokens_ordered := by
        rw [htokens]
        exact List.pairwise_cons.mpr ⟨hbehind, hr.tokens_ordered⟩
      issues_isBoundary := hissues ▸ hr.issues_isBoundary
      issues_behind := by
        rw [hissues]
        exact fun i hi => Nat.le_trans (hr.issues_behind i hi) hle
      issues_ordered := hissues ▸ hr.issues_ordered }

/-- A move over the text keeps in order what a run has found. -/
theorem Move.inOrder {p : TokenSet → Prop} (hmove : Move p r next) (hover : r.IsOver text)
    (hr : r.InOrder text) : next.InOrder text := by
  have hle := hmove.offset_le hover
  cases hmove with
  | advance n => exact hr.further rfl rfl hle
  | toEnd => exact hr.further rfl rfl hle
  | raise cause => exact hr.raise hover.place cause
  | scan hvalid => exact hr.scan (Scan.span_isIn hover.place)

theorem Walks.inOrder (hwalk : Walks r next) (hover : r.IsOver text) (hr : r.InOrder text) :
    next.InOrder text := by
  induction hwalk with
  | refl => exact hr
  | tail hwalk hlast ih => exact hlast.inOrder (Walks.isOver hwalk hover) ih

end InOrder

section Start

variable (scanner : Scanner) (checkpoint : Bool) (text : String)

theorem isOver_start : (start scanner checkpoint text).IsOver text.toList where
  size := (Utf8.byteLength_toList text).symm
  place := Place.isIn_start _

theorem inOrder_start : (start scanner checkpoint text).InOrder text.toList := by
  constructor <;> simp [start]

end Start

end Run

/-! ## Outcomes -/

/-- The tokens of an outcome are stretches of the text, one behind the other, and can be listed; its
issues are at character boundaries, none before an earlier one. -/
structure Outcome.InOrder (text : String) (outcome : Outcome) : Prop where
  tokens_isIn : ∀ t ∈ outcome.tokens, t.span.IsIn text.toList ∧ t.span.stop ≤ text.utf8ByteSize
  tokens_ordered : outcome.tokens.Pairwise fun t later => t.span.stop ≤ later.span.start
  listed : ∃ lines, Token.lines text.toList outcome.tokens = .ok lines ∧
    lines.length = outcome.tokens.length
  issues_isBoundary : ∀ i ∈ outcome.issues, IsBoundary text.toList i.position
  issues_ordered : outcome.issues.Pairwise fun i later => i.position ≤ later.position

theorem Run.InOrder.outcome {text : String} {r : Run} (hr : r.InOrder text.toList)
    (hover : r.IsOver text.toList) : r.outcome.InOrder text where
  tokens_isIn t ht := by
    have htoken : t ∈ r.tokens := List.mem_reverse.mp ht
    refine ⟨hr.tokens_isIn t htoken, Nat.le_trans (hr.tokens_behind t htoken) ?_⟩
    rw [← Utf8.byteLength_toList]
    exact hover.place.offset_le
  tokens_ordered := List.pairwise_reverse.mpr hr.tokens_ordered
  listed := Token.exists_lines fun t ht => hr.tokens_isIn t (List.mem_reverse.mp ht)
  issues_isBoundary i hi := hr.issues_isBoundary i (List.mem_reverse.mp hi)
  issues_ordered := List.pairwise_reverse.mpr hr.issues_ordered

/-- The tokens and the issues of every document come in order. -/
theorem inOrder_runWith (scanner : Scanner) (checkpoint : Bool) (text : String) :
    (runWith scanner checkpoint text).outcome.InOrder text := by
  have hstart := Run.isOver_start scanner checkpoint text
  have hwalk : Run.Walks (.start scanner checkpoint text)
      (Run.start scanner checkpoint text).document := Run.acts_document.walks _
  have horder := hwalk.inOrder hstart (Run.inOrder_start scanner checkpoint text)
  exact horder.outcome (hwalk.isOver hstart)

end TemplateScan.Document
