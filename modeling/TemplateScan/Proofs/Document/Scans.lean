import TemplateScan.Document.Parse
import TemplateScan.Proofs.Lexing.Findings
import TemplateScan.Proofs.Scanning
import TemplateScan.Proofs.Text.Stretches

/-!
# What a scan does to a run

A scan changes the scanner, and where it finds a token it adds this one and moves the run behind it.
A snapshot before the scan may change the state of the scanner but nothing else.

* `kind_scan`, `scanner_scan`, `tokens_scan`, `place_scan_of_some` and the like: the fields of the
  run behind a scan.
* `state_scan`: what a scan does to the state without a snapshot before it.
* `offset_lt_scan`: a token with text moves the run on.
* `contains_of_mayBeEmpty`: a token without text is of an admissible kind.
-/

namespace TemplateScan

open Text

/-- Whether a token of the kind may have no text. -/
def TokenKind.mayBeEmpty : TokenKind → Bool
  | .implicitEndTag | .rawText | .mustacheComment => true
  | _ => false

theorem Finding.eq_nothing {finding : Finding} (hkind : finding.kind? = none) :
    finding = .nothing := by
  cases finding with
  | nothing => rfl
  | startTag tag =>
    rw [kind?] at hkind
    split at hkind <;> cases hkind
  | _ => cases hkind

theorem Finding.text_ne {s : ScanState} {text : List Char} {finding : Finding} {kind : TokenKind}
    (htells : finding.Tells s text) (hkind : finding.kind? = some kind)
    (hempty : kind.mayBeEmpty = false) : text ≠ [] := by
  cases finding with
  | nothing => cases hkind
  | implicitEnd | rawText | mustacheComment =>
    cases hkind
    cases hempty
  | comment | opening | closing | directiveEnd | identifier | text => exact htells
  | _ => exact htells.1

namespace Scanner

variable (s : Scanner) (valid : TokenSet) (entry : Place)

/-- The characters of the token that a scan finds. -/
def found : List Char :=
  (entry.ahead.drop (s.scan valid entry).reading.skipped).take (s.scan valid entry).reading.length

theorem scan_tells : (s.scan valid entry).reading.finding.Tells s.state (s.found valid entry) :=
  (Lexing.read_holds s.config s.state valid entry.ahead).tells

theorem scan_admitted : (s.scan valid entry).reading.finding.Admitted valid :=
  (Lexing.read_holds s.config s.state valid entry.ahead).admitted

end Scanner

namespace Scan

variable {text : List Char} {scan : Scan}

/-- A scan from a place of a text stays in it. -/
theorem here_isIn (hentry : scan.entry.IsIn text) : scan.cursor.here.IsIn text := by
  rw [cursor, Reading.follow_here]
  exact hentry.advance _

theorem last_isIn (hentry : scan.entry.IsIn text) : scan.cursor.last.IsIn text := by
  rw [cursor_last]
  exact hentry.advance _

theorem offset_first_le_last (scan : Scan) :
    scan.cursor.first.offset ≤ scan.cursor.last.offset := by
  rw [cursor_first, cursor_last, Place.advance_add]
  exact Place.offset_le_advance _ _

theorem offset_entry_le_first (scan : Scan) : scan.entry.offset ≤ scan.cursor.first.offset := by
  rw [cursor_first]
  exact Place.offset_le_advance _ _

/-- A token that is found from a place of a text is a stretch of it. -/
theorem span_isIn (hentry : scan.entry.IsIn text) : scan.cursor.span.IsIn text where
  start := by
    have hfirst : scan.cursor.first.IsIn text := by
      rw [cursor_first]
      exact hentry.advance _
    exact hfirst.isBoundary
  stop := (last_isIn hentry).isBoundary
  le := scan.offset_first_le_last

end Scan

namespace Document.Run

section Fields

variable (r : Run)

@[simp] theorem size_beforeScan : r.beforeScan.size = r.size := by
  rw [beforeScan]
  split <;> rfl

@[simp] theorem place_beforeScan : r.beforeScan.place = r.place := by
  rw [beforeScan]
  split <;> rfl

@[simp] theorem tokens_beforeScan : r.beforeScan.tokens = r.tokens := by
  rw [beforeScan]
  split <;> rfl

@[simp] theorem issues_beforeScan : r.beforeScan.issues = r.issues := by
  rw [beforeScan]
  split <;> rfl

@[simp] theorem overflowed_beforeScan : r.beforeScan.overflowed = r.overflowed := by
  rw [beforeScan]
  split <;> rfl

/-- The scan that a run makes. -/
def scanAhead (valid : TokenSet) : Scan :=
  r.beforeScan.scanner.scan valid r.place

variable (valid : TokenSet)

/-- The run behind a scan that finds nothing. -/
theorem scan_of_none (hkind : (r.scanAhead valid).kind? = none) :
    r.scan valid = (none, r.beforeScan.afterScan (r.scanAhead valid)) := by
  rw [scanAhead, ← r.place_beforeScan] at hkind ⊢
  rw [scan]
  simp only [hkind]

/-- The run behind a scan that finds a token. -/
theorem scan_of_some {kind : TokenKind} (hkind : (r.scanAhead valid).kind? = some kind) :
    r.scan valid = (some kind,
      { r.beforeScan.afterScan (r.scanAhead valid) with
        tokens := ⟨kind, (r.scanAhead valid).cursor.span⟩ :: r.tokens
        place := (r.scanAhead valid).cursor.last }) := by
  rw [scanAhead, ← r.place_beforeScan, ← r.tokens_beforeScan] at *
  rw [scan]
  simp only [hkind]
  rfl

@[simp] theorem kind_scan : (r.scan valid).1 = (r.scanAhead valid).kind? := by
  cases hkind : (r.scanAhead valid).kind? with
  | none => simp [r.scan_of_none valid hkind]
  | some kind => simp [r.scan_of_some valid hkind]

@[simp] theorem size_scan : (r.scan valid).2.size = r.size := by
  cases hkind : (r.scanAhead valid).kind? with
  | none => simp [r.scan_of_none valid hkind, afterScan, log]
  | some kind => simp [r.scan_of_some valid hkind, afterScan, log]

@[simp] theorem issues_scan : (r.scan valid).2.issues = r.issues := by
  cases hkind : (r.scanAhead valid).kind? with
  | none => simp [r.scan_of_none valid hkind, afterScan, log]
  | some kind => simp [r.scan_of_some valid hkind, afterScan, log]

@[simp] theorem scanner_scan : (r.scan valid).2.scanner = (r.scanAhead valid).after := by
  cases hkind : (r.scanAhead valid).kind? with
  | none => simp [r.scan_of_none valid hkind, afterScan, log]
  | some kind => simp [r.scan_of_some valid hkind, afterScan, log]

@[simp] theorem overflowed_scan :
    (r.scan valid).2.overflowed = (r.overflowed || (r.scanAhead valid).reading.overflowed) := by
  cases hkind : (r.scanAhead valid).kind? with
  | none => simp [r.scan_of_none valid hkind, afterScan, log]
  | some kind => simp [r.scan_of_some valid hkind, afterScan, log]

theorem tokens_scan :
    (r.scan valid).2.tokens = (r.scanAhead valid).token?.toList ++ r.tokens := by
  cases hkind : (r.scanAhead valid).kind? with
  | none => simp [r.scan_of_none valid hkind, afterScan, log, Scan.token?, hkind]
  | some kind => simp [r.scan_of_some valid hkind, afterScan, log, Scan.token?, hkind]

theorem trace_scan :
    (r.scan valid).2.trace = (r.scanAhead valid).events.reverse ++ r.beforeScan.trace := by
  cases hkind : (r.scanAhead valid).kind? with
  | none =>
    rw [r.scan_of_none valid hkind]
    rfl
  | some kind =>
    rw [r.scan_of_some valid hkind]
    rfl

theorem place_scan_of_none (hkind : (r.scanAhead valid).kind? = none) :
    (r.scan valid).2.place = r.place := by
  simp [r.scan_of_none valid hkind, afterScan, log]

theorem place_scan_of_some {kind : TokenKind} (hkind : (r.scanAhead valid).kind? = some kind) :
    (r.scan valid).2.place = (r.scanAhead valid).cursor.last := by
  rw [r.scan_of_some valid hkind]

/-- Without snapshots, a scan does to the state what its finding does. -/
theorem state_scan (hplain : r.checkpoint = false) :
    (r.scan valid).2.scanner.state =
      (r.scanAhead valid).reading.finding.apply r.scanner.state := by
  rw [scanner_scan, scanAhead, beforeScan_eq_self hplain]
  rfl

end Fields

section Progress

variable {r last : Run} {valid : TokenSet} {kind : TokenKind}

/-- A scan that finds nothing leaves the run where it is. -/
theorem place_of_scan_none (hscan : r.scan valid = (none, last)) : last.place = r.place := by
  have hkind := r.kind_scan valid
  rw [hscan] at hkind
  rw [← r.place_scan_of_none valid hkind.symm, hscan]

/-- Without snapshots, a scan that finds nothing leaves the state. -/
theorem finding_of_scan_none (hplain : r.checkpoint = false) (hscan : r.scan valid = (none, last)) :
    last.scanner.state = r.scanner.state ∧
      (Lexing.read r.scanner.config r.scanner.state valid r.ahead).finding = .nothing := by
  have hkind := r.kind_scan valid
  have hstate := r.state_scan valid hplain
  rw [hscan] at hkind hstate
  have hnothing := Finding.eq_nothing hkind.symm
  rw [hnothing] at hstate
  rw [scanAhead, beforeScan_eq_self hplain] at hnothing
  exact ⟨hstate, hnothing⟩

/-- A token with text moves the run on. -/
theorem offset_lt_scan (hscan : r.scan valid = (some kind, last))
    (hempty : kind.mayBeEmpty = false) : r.place.offset < last.place.offset := by
  have hkind := r.kind_scan valid
  rw [hscan] at hkind
  have htext := Finding.text_ne (r.beforeScan.scanner.scan_tells valid r.place) hkind.symm hempty
  have hplace := r.place_scan_of_some valid hkind.symm
  rw [hscan] at hplace
  -- the token begins behind what is passed over, and it has a character
  rw [hplace, Scan.cursor_last, Place.advance_add]
  apply Nat.lt_of_le_of_lt (Place.offset_le_advance _ _)
  rw [Scanner.found, ne_eq, List.take_eq_nil_iff, not_or, ← Place.advance_ahead] at htext
  exact Place.offset_lt_advance (Nat.pos_of_ne_zero htext.1) htext.2

/-- A token that may have no text is found only where its kind is admissible. -/
theorem contains_of_mayBeEmpty (hscan : r.scan valid = (some kind, last))
    (hempty : kind.mayBeEmpty = true) : valid.contains kind = true := by
  have hkind := r.kind_scan valid
  rw [hscan, Scan.kind?, scanAhead] at hkind
  have hadmitted := r.beforeScan.scanner.scan_admitted valid r.place
  cases hfinding : (r.beforeScan.scanner.scan valid r.place).reading.finding
  all_goals rw [hfinding] at hkind hadmitted
  case nothing => cases hkind
  case implicitEnd | rawText | mustacheComment =>
    cases hkind
    exact hadmitted
  case startTag tag =>
    -- the category of the element tells the kind, and none of these kinds may be empty
    rw [Finding.kind?] at hkind
    split at hkind
    all_goals
      cases hkind
      cases hempty
  all_goals
    cases hkind
    cases hempty

end Progress

end Document.Run

end TemplateScan
