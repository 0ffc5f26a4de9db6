import TemplateScan.Proofs.Document.Scans

/-!
# Directives that are rejected

A directive is recognized by two scans, one for each delimiter, and each of them sets its delimiter
at once.  If the second one finds nothing, the directive is rejected, and nothing takes back what
the first one has set: the new opening delimiter goes with the old closing one.

* `rejects_iff`: a directive is rejected if and only if one of its scans finds nothing.
* `delimiters_of_rejects`: what delimiters a rejected directive leaves.
* `halfDirective_changes_delimiters`: a directive that is rejected and changes the delimiters.
-/

namespace TemplateScan

open Text Mustache

/-- Where only a new opening delimiter is admissible, nothing else is found. -/
theorem Lexing.read_newOpening (config : ScanConfig) (s : ScanState) (ahead : List Char) :
    (read config s (.singleton .mustacheSetStartDelimiter) ahead).finding = .nothing ∨
      ∃ spelling, (read config s (.singleton .mustacheSetStartDelimiter) ahead).finding =
        .newOpening spelling := by
  have hpart : ∀ chars, mustachePart? config s (.singleton .mustacheSetStartDelimiter) chars =
      some (if config.delimiterChanges then newOpening chars else .decline 0) := fun _ => rfl
  rw [read, if_neg (by decide)]
  simp only [atToken, hpart]
  split
  · rw [newOpening]
    split
    · exact Or.inl rfl
    · exact Or.inr ⟨_, rfl⟩
  · exact Or.inl rfl

namespace Document.Run

/-- The delimiters that the scanner of a run has. -/
def delimiters (r : Run) : Delimiters :=
  r.scanner.state.delimiters

/-- The scan for the new opening delimiter of a directive. -/
def openingHalf (r : Run) : Option TokenKind × Run :=
  r.scan (.singleton .mustacheSetStartDelimiter)

/-- The scan for the new closing delimiter of a directive. -/
def closingHalf (r : Run) : Option TokenKind × Run :=
  r.openingHalf.2.scan (.singleton .mustacheSetEndDelimiter)

/-- The directive is rejected: reading it notes so. -/
def Rejects (r : Run) : Prop :=
  ∃ position, r.directive.issues = ⟨.rejectedDelimiterChange, position⟩ :: r.issues

section Directive

variable {r : Run}

theorem directive_eq (r : Run) :
    r.directive = if r.openingHalf.1.isNone then r.openingHalf.2.rejectDirective
      else if r.closingHalf.1.isNone then r.closingHalf.2.rejectDirective
      else r.closingHalf.2.directiveEnd := by
  rw [directive]
  split
  · next hscan => simp [openingHalf, hscan]
  · next hscan =>
    split
    · next hscan' => simp [closingHalf, openingHalf, hscan, hscan']
    · next hscan' => simp [closingHalf, openingHalf, hscan, hscan']

/-! ## When a directive is rejected -/

theorem issues_skipPastClosing (r : Run) : r.skipPastClosing.issues = r.issues := by
  rw [skipPastClosing]
  split <;> rfl

theorem issues_rejectDirective (r : Run) :
    r.rejectDirective.issues = ⟨.rejectedDelimiterChange, r.place.offset⟩ :: r.issues :=
  issues_skipPastClosing _

theorem issues_expect (r : Run) (valid : TokenSet) (cause : Cause) :
    (r.expect valid cause).issues = r.issues ∨
      ∃ position, (r.expect valid cause).issues = ⟨cause, position⟩ :: r.issues := by
  have hissues := r.issues_scan valid
  rw [expect]
  split
  · next hscan =>
    rw [hscan] at hissues
    exact Or.inl hissues
  · next last hscan =>
    rw [hscan] at hissues
    exact Or.inr ⟨last.place.offset, congrArg (_ :: ·) hissues⟩

/-- The end of a directive is not what rejects it. -/
theorem directiveEnd_not_rejects (r : Run) (position : Nat) :
    r.directiveEnd.issues ≠ ⟨.rejectedDelimiterChange, position⟩ :: r.issues := by
  intro hrejects
  rw [directiveEnd] at hrejects
  split at hrejects
  · rcases (r.advance 1).issues_expect (.singleton .mustacheOldEndDelimiter) .missingEndDelimiter
      with hnone | ⟨position', hsome⟩
    · rw [hnone] at hrejects
      exact List.cons_ne_self _ _ hrejects.symm
    · rw [hsome] at hrejects
      cases hrejects
  · rcases (r.raise .unexpectedCharacter).issues_expect (.singleton .mustacheOldEndDelimiter)
      .missingEndDelimiter with hnone | ⟨position', hsome⟩
    · rw [hnone] at hrejects
      cases hrejects
    · rw [hsome] at hrejects
      cases hrejects

theorem issues_openingHalf (r : Run) : r.openingHalf.2.issues = r.issues :=
  r.issues_scan _

theorem issues_closingHalf (r : Run) : r.closingHalf.2.issues = r.issues := by
  rw [closingHalf, issues_scan, issues_openingHalf]

/-- A directive is rejected if and only if one of its scans finds nothing. -/
theorem rejects_iff (r : Run) :
    r.Rejects ↔ r.openingHalf.1 = none ∨ r.closingHalf.1 = none := by
  rw [Rejects, directive_eq]
  split
  · next hopening =>
    have hissues := r.openingHalf.2.issues_rejectDirective
    rw [issues_openingHalf] at hissues
    exact iff_of_true ⟨_, hissues⟩ (Or.inl (Option.isNone_iff_eq_none.mp hopening))
  · next hopening =>
    split
    · next hclosing =>
      have hissues := r.closingHalf.2.issues_rejectDirective
      rw [issues_closingHalf] at hissues
      exact iff_of_true ⟨_, hissues⟩ (Or.inr (Option.isNone_iff_eq_none.mp hclosing))
    · next hclosing =>
      apply iff_of_false
      · intro hrejects
        obtain ⟨position, hissues⟩ := hrejects
        exact r.closingHalf.2.directiveEnd_not_rejects position
          (by rw [hissues, issues_closingHalf])
      · rw [Option.isNone_iff_eq_none] at hopening hclosing
        exact not_or.mpr ⟨hopening, hclosing⟩

/-! ## What a rejected directive leaves -/

theorem scanner_skipPastClosing (r : Run) : r.skipPastClosing.scanner = r.scanner := by
  rw [skipPastClosing]
  split <;> rfl

theorem delimiters_rejectDirective (r : Run) : r.rejectDirective.delimiters = r.delimiters := by
  rw [delimiters, rejectDirective, scanner_skipPastClosing]
  rfl

/-- A scan that finds nothing leaves the delimiters. -/
theorem delimiters_of_scan_none {valid : TokenSet} (hscan : (r.scan valid).1 = none) :
    (r.scan valid).2.delimiters = r.beforeScan.delimiters := by
  rw [kind_scan] at hscan
  rw [delimiters, scanner_scan, Scan.after, Finding.eq_nothing hscan]
  rfl

/-- The scan for the opening delimiter sets it to the text that it finds. -/
theorem delimiters_openingHalf (hopening : r.openingHalf.1 ≠ none) :
    r.openingHalf.2.delimiters = r.beforeScan.delimiters.setOpening (String.ofList
      (r.beforeScan.scanner.found (.singleton .mustacheSetStartDelimiter) r.place)) := by
  rw [openingHalf, kind_scan] at hopening
  rw [openingHalf, delimiters, scanner_scan, Scan.after]
  have htells := r.beforeScan.scanner.scan_tells (.singleton .mustacheSetStartDelimiter) r.place
  rcases Lexing.read_newOpening r.beforeScan.scanner.config r.beforeScan.scanner.state
    r.place.ahead with hfinding | ⟨spelling, hfinding⟩
  · exact absurd (congrArg Finding.kind? hfinding) hopening
  · have hreading : (r.scanAhead (.singleton .mustacheSetStartDelimiter)).reading.finding =
        .newOpening spelling := hfinding
    rw [show (r.beforeScan.scanner.scan (.singleton .mustacheSetStartDelimiter)
      r.place).reading.finding = .newOpening spelling from hfinding] at htells
    rw [hreading, ← htells.2]
    rfl

/-- **A rejected directive leaves its first half.**  If no new opening delimiter was found, the
delimiters are those of the scan for it.  Otherwise this delimiter has been set, it is still set in
the scan for the closing delimiter, and the delimiters are those of that scan. -/
theorem delimiters_of_rejects (hrejects : r.Rejects) :
    (r.openingHalf.1 = none ∧ r.directive.delimiters = r.beforeScan.delimiters) ∨
      (r.openingHalf.1 ≠ none ∧
        r.openingHalf.2.delimiters = r.beforeScan.delimiters.setOpening (String.ofList
          (r.beforeScan.scanner.found (.singleton .mustacheSetStartDelimiter) r.place)) ∧
        r.directive.delimiters = r.openingHalf.2.beforeScan.delimiters) := by
  by_cases hopening : r.openingHalf.1 = none
  · refine Or.inl ⟨hopening, ?_⟩
    rw [directive_eq, hopening, Option.isNone_none, if_pos rfl, delimiters_rejectDirective]
    exact delimiters_of_scan_none hopening
  · have hclosing := ((rejects_iff r).mp hrejects).resolve_left hopening
    refine Or.inr ⟨hopening, delimiters_openingHalf hopening, ?_⟩
    rw [directive_eq, if_neg (by simpa using hopening), hclosing, Option.isNone_none, if_pos rfl,
      delimiters_rejectDirective]
    exact delimiters_of_scan_none hclosing

end Directive

/-! ## A half directive -/

/-- A directive that ends behind its first half. -/
def halfText : String :=
  "\x7b\x7b=<% %>\x7d\x7d"

/-- The run over it that has read all up to the new opening delimiter. -/
def halfDirective : Run :=
  ((start (.new {}) false halfText).scan (contentTokens false)).2.advance 1

theorem halfDirective_rejects : halfDirective.Rejects := by
  refine ⟨5, ?_⟩
  decide +kernel

/-- The directive leaves what its first half has set. -/
theorem delimiters_of_rejects_halfDirective :
    halfDirective.Rejects ∧
      halfDirective.directive.delimiters =
        halfDirective.openingHalf.2.beforeScan.delimiters := by
  refine ⟨halfDirective_rejects, ?_⟩
  rcases delimiters_of_rejects halfDirective_rejects with ⟨hnone, -⟩ | ⟨-, -, hdelimiters⟩
  · exact absurd hnone (by decide +kernel)
  · exact hdelimiters

/-- The directive is rejected and changes the delimiters, and so they are at the end of the
document. -/
theorem halfDirective_changes_delimiters :
    halfDirective.Rejects ∧ halfDirective.directive.delimiters ≠ halfDirective.delimiters ∧
      (runWith (.new {}) false halfText).delimiters = halfDirective.directive.delimiters := by
  refine ⟨halfDirective_rejects, ?_, ?_⟩
  · decide +kernel
  · decide +kernel

end Document.Run

end TemplateScan
