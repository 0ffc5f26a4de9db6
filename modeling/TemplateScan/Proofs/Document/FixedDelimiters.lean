import TemplateScan.Proofs.Document.Checkpoint
import TemplateScan.Proofs.Document.WholeDirectives

/-!
# Documents whose delimiters may not change

The settings decide whether directives may set delimiters.  Nothing but a directive that sets one
can tell the difference: where they may and none does, the document is read as if they might not.
And where they may not, the built-in delimiters stay in force, even through snapshots.

* `Lexing.read_fixed_cases`: what the settings decide of a reading.
* `inStep_fixed`: runs under both settings stay in step until a delimiter is set.
* `BuiltinOnly`: what a run is like under settings that do not let delimiters change;
  `BuiltinOnly.move`: it stays so.
* `delimiters_fixed`: both together, for whole documents.
-/

namespace TemplateScan

open Text Mustache

/-- The settings under which directives may not set delimiters. -/
def ScanConfig.fixed (config : ScanConfig) : ScanConfig :=
  { config with delimiterChanges := false }

theorem ScanConfig.fixed_eq_self {config : ScanConfig} (hfixed : config.delimiterChanges = false) :
    config.fixed = config := by
  rw [fixed, ← hfixed]

/-! ## Readings -/

/-- Whether a finding is a delimiter that a directive sets. -/
def Finding.setsDelimiter : Finding → Bool
  | newOpening _ | newClosing _ => true
  | _ => false

/-- The kind of the token tells whether a finding sets a delimiter. -/
theorem Finding.setsDelimiter_eq_false_iff {finding : Finding} :
    finding.setsDelimiter = false ↔ finding.kind? ≠ some .mustacheSetStartDelimiter ∧
      finding.kind? ≠ some .mustacheSetEndDelimiter := by
  cases finding with
  | startTag tag =>
    rw [kind?]
    split <;> simp [setsDelimiter]
  | _ => simp [setsDelimiter, kind?]

/-- Without setting one, a finding leaves the built-in delimiters. -/
theorem Finding.delimiters_apply_builtin {finding : Finding} {s : ScanState}
    (hsets : finding.setsDelimiter = false) (hs : s.delimiters = {}) :
    (finding.apply s).delimiters = {} := by
  cases finding with
  | newOpening | newClosing => cases hsets
  | directiveEnd =>
    rw [apply, hs]
    rfl
  | _ => exact hs

namespace Lexing

section Fixed

variable {config : ScanConfig} {s : ScanState} {valid : TokenSet} {ahead : List Char}

theorem newOpening_finding (ahead : List Char) :
    (newOpening ahead).FindsNothing ∨ (newOpening ahead).finding.setsDelimiter = true := by
  rw [newOpening]
  split
  · exact Or.inl ⟨rfl, rfl⟩
  · exact Or.inr rfl

theorem newClosing_finding (ahead : List Char) :
    (newClosing ahead).FindsNothing ∨ (newClosing ahead).finding.setsDelimiter = true := by
  rw [newClosing]
  split
  · exact Or.inl ⟨rfl, rfl⟩
  · exact Or.inr rfl

/-- Where no new delimiter is looked for, the settings decide nothing. -/
theorem mustachePart?_fixed (hopening : valid.contains .mustacheSetStartDelimiter = false)
    (hclosing : valid.contains .mustacheSetEndDelimiter = false) :
    mustachePart? config.fixed s valid ahead = mustachePart? config s valid ahead := by
  simp only [mustachePart?, hopening, hclosing, Bool.false_eq_true, if_false]

/-- Where one is looked for, none is found under settings that do not let delimiters change, and
under others nothing else. -/
theorem mustachePart?_of_contains
    (hvalid : valid.contains .mustacheSetStartDelimiter = true ∨
      valid.contains .mustacheSetEndDelimiter = true) :
    mustachePart? config.fixed s valid ahead = some (.decline 0) ∧
      ∃ r, mustachePart? config s valid ahead = some r ∧
        (r.FindsNothing ∨ r.finding.setsDelimiter = true) := by
  rw [mustachePart?, mustachePart?]
  split
  · refine ⟨rfl, _, rfl, ?_⟩
    split
    · exact newOpening_finding ahead
    · exact Or.inl ⟨rfl, rfl⟩
  · next hopening =>
    rw [if_pos (hvalid.resolve_left hopening), if_pos (hvalid.resolve_left hopening)]
    refine ⟨rfl, _, rfl, ?_⟩
    split
    · exact newClosing_finding ahead
    · exact Or.inl ⟨rfl, rfl⟩

/-- The settings decide nothing of a reading, unless nothing or a new delimiter is found. -/
theorem read_fixed_cases (config : ScanConfig) (s : ScanState) (valid : TokenSet)
    (ahead : List Char) :
    read config.fixed s valid ahead = read config s valid ahead ∨
      ((read config.fixed s valid ahead).FindsNothing ∧
        ((read config s valid ahead).FindsNothing ∨
          (read config s valid ahead).finding.setsDelimiter = true)) := by
  rw [read, read]
  split
  · exact Or.inl rfl
  dsimp only
  generalize ahead.drop (ahead.takeWhile isBlank).length = ahead
  by_cases hvalid : valid.contains .mustacheSetStartDelimiter = true ∨
      valid.contains .mustacheSetEndDelimiter = true
  · obtain ⟨hfixed, r, hpart, hfinding⟩ := @mustachePart?_of_contains config s valid ahead hvalid
    rw [atToken, atToken, hfixed, hpart]
    exact Or.inr ⟨⟨rfl, rfl⟩, hfinding.imp_left fun h => ⟨h.finding, h.overflowed⟩⟩
  · rw [not_or, Bool.not_eq_true, Bool.not_eq_true] at hvalid
    rw [atToken, atToken, mustachePart?_fixed hvalid.1 hvalid.2]
    exact Or.inl rfl

/-- Where delimiters may not change, none is set. -/
theorem setsDelimiter_read_fixed (config : ScanConfig) (s : ScanState) (valid : TokenSet)
    (ahead : List Char) : (read config.fixed s valid ahead).finding.setsDelimiter = false := by
  have hadmitted := (read_holds config.fixed s valid ahead).admitted
  have hnone (hvalid : valid.contains .mustacheSetStartDelimiter = true ∨
      valid.contains .mustacheSetEndDelimiter = true) :
      (read config.fixed s valid ahead).finding.setsDelimiter = false := by
    rw [read]
    split
    · rw [rawText]
      split <;> rfl
    · dsimp only
      rw [atToken, (mustachePart?_of_contains hvalid).1]
      rfl
  -- a new delimiter would have been looked for
  cases hfinding : (read config.fixed s valid ahead).finding with
  | newOpening =>
    rw [hfinding] at hadmitted
    rw [← hfinding, hnone (Or.inl hadmitted)]
  | newClosing =>
    rw [hfinding] at hadmitted
    rw [← hfinding, hnone (Or.inr hadmitted)]
  | _ => rfl

end Fixed

end Lexing

namespace Document.Run

/-! ## Both settings -/

/-- The run under settings that do not let delimiters change. -/
def fixed (r : Run) : Run :=
  { r with scanner := { r.scanner with config := r.scanner.config.fixed } }

section Fixed

variable {r : Run} {valid : TokenSet}

/-- Snapshots do not depend on whether delimiters may change. -/
theorem beforeScan_fixed (r : Run) : r.fixed.beforeScan = r.beforeScan.fixed := by
  rw [beforeScan, beforeScan]
  show (if r.checkpoint = true then r.fixed.roundTrip else r.fixed) = _
  split <;> rfl

theorem before_fixed (r : Run) (valid : TokenSet) :
    (r.fixed.scanAhead valid).before =
      { r.beforeScan.scanner with config := r.beforeScan.scanner.config.fixed } := by
  rw [scanAhead, beforeScan_fixed]
  rfl

theorem reading_fixed (r : Run) (valid : TokenSet) :
    (r.fixed.scanAhead valid).reading =
      Lexing.read r.beforeScan.scanner.config.fixed r.beforeScan.scanner.state valid
        r.place.ahead := by
  rw [scanAhead, beforeScan_fixed]
  rfl

/-- A scan that sets no delimiter finds the same under both settings. -/
theorem finding_fixed (hsets : (r.scanAhead valid).reading.finding.setsDelimiter = false) :
    (r.fixed.scanAhead valid).reading.finding = (r.scanAhead valid).reading.finding ∧
      (r.fixed.scanAhead valid).reading.overflowed = (r.scanAhead valid).reading.overflowed ∧
      ((r.scanAhead valid).kind? ≠ none →
        (r.fixed.scanAhead valid).reading = (r.scanAhead valid).reading) := by
  rw [reading_fixed]
  -- the readings are the same or both find nothing, as no delimiter is found
  rcases Lexing.read_fixed_cases r.beforeScan.scanner.config r.beforeScan.scanner.state valid
    r.place.ahead with hsame | ⟨hfixed, hnothing | hset⟩
  · rw [hsame]
    exact ⟨rfl, rfl, fun _ => rfl⟩
  · refine ⟨hfixed.finding.trans hnothing.finding.symm,
      hfixed.overflowed.trans hnothing.overflowed.symm, ?_⟩
    intro hsome
    rw [Scan.kind?, show (r.scanAhead valid).reading.finding = _ from hnothing.finding] at hsome
    exact absurd rfl hsome
  · exact absurd (hsets.symm.trans hset) (by decide)

/-- So it does the same to both runs. -/
theorem scan_fixed (hsets : (r.scanAhead valid).reading.finding.setsDelimiter = false) :
    r.fixed.scan valid = ((r.scan valid).1, (r.scan valid).2.fixed) := by
  obtain ⟨hfinding, hoverflowed, hreading⟩ := finding_fixed hsets
  have hsame : (r.fixed.scanAhead valid).kind? = (r.scanAhead valid).kind? := by
    rw [Scan.kind?, hfinding, Scan.kind?]
  have hafter : (r.fixed.scanAhead valid).after =
      { (r.scanAhead valid).after with config := r.beforeScan.scanner.config.fixed } := by
    rw [Scan.after, hfinding, hsame, before_fixed]
    rfl
  have hevents : (r.fixed.scanAhead valid).events = (r.scanAhead valid).events := by
    rw [Scan.events, hfinding, hsame, before_fixed]
    rfl
  have hbehind : r.beforeScan.fixed.afterScan (r.fixed.scanAhead valid) =
      (r.beforeScan.afterScan (r.scanAhead valid)).fixed := by
    rw [afterScan, hafter, hevents, hoverflowed]
    rfl
  -- how far a reading went tells only where it has found a token
  cases hkind : (r.scanAhead valid).kind? with
  | none =>
    rw [r.scan_of_none valid hkind, r.fixed.scan_of_none valid (hsame.trans hkind),
      beforeScan_fixed, hbehind]
  | some kind =>
    have hcursor : (r.fixed.scanAhead valid).cursor = (r.scanAhead valid).cursor := by
      rw [Scan.cursor, hreading (hkind ▸ Option.some_ne_none kind)]
      rfl
    rw [r.scan_of_some valid hkind, r.fixed.scan_of_some valid (hsame.trans hkind),
      beforeScan_fixed, hbehind, hcursor]
    rfl

/-- No delimiter has been set, so that no directive has been found. -/
structure SetsNone (r : Run) : Prop where
  opening : r.NeverFound .mustacheSetStartDelimiter
  closing : r.NeverFound .mustacheSetEndDelimiter

theorem SetsNone.finding (hnone : (r.scan valid).2.SetsNone) :
    (r.scanAhead valid).reading.finding.setsDelimiter = false := by
  have hopening := (neverFound_scan_iff.mp hnone.opening).1
  have hclosing := (neverFound_scan_iff.mp hnone.closing).1
  rw [kind_scan] at hopening hclosing
  exact Finding.setsDelimiter_eq_false_iff.mpr ⟨hopening, hclosing⟩

theorem tokens_expect (r : Run) (valid : TokenSet) (cause : Cause) :
    (r.expect valid cause).tokens = (r.scan valid).2.tokens := by
  rw [expect]
  rcases r.scan valid with ⟨_ | kind, next⟩
  · rfl
  · rfl

/-- As long as no delimiter is set, runs under both settings stay in step. -/
theorem inStep_fixed (p : TokenSet → Prop) : InStep p SetsNone (fun r r' => r' = r.fixed) where
  kept_of_move hmove hnext := ⟨hnext.opening.of_move hmove, hnext.closing.of_move hmove⟩
  size := by
    rintro r _ rfl
    rfl
  place := by
    rintro r _ rfl
    rfl
  delimiters := by
    rintro r _ rfl
    rfl
  advance := by
    rintro r _ n rfl
    rfl
  toEnd := by
    rintro r _ rfl
    rfl
  raise := by
    rintro r _ cause rfl
    rfl
  scan := by
    rintro r _ valid - - rfl hnone
    rw [scan_fixed hnone.finding]
    exact ⟨rfl, rfl⟩
  expect := by
    rintro r _ valid cause - rfl hnone
    -- noting an issue finds no token, so the scan has set no delimiter either
    have hscan : (r.scan valid).2.SetsNone := by
      refine ⟨?_, ?_⟩
      · rw [NeverFound, ← tokens_expect r valid cause]
        exact hnone.opening
      · rw [NeverFound, ← tokens_expect r valid cause]
        exact hnone.closing
    rw [expect, expect, scan_fixed hscan.finding]
    rcases r.scan valid with ⟨_ | kind, next⟩
    · rfl
    · rfl

end Fixed

/-! ## Delimiters that may not change -/

/-- The settings do not let delimiters change, and so far the built-in ones were in force, in every
scan and now, and none was set. -/
structure BuiltinOnly (r : Run) : Prop where
  config : r.scanner.config.delimiterChanges = false
  delimiters : r.scanner.state.delimiters = {}
  scanned : ∀ s ∈ r.scannedStates, s.delimiters = {}
  none : r.SetsNone

section BuiltinOnly

variable {p : TokenSet → Prop} {r next : Run} {valid : TokenSet}

theorem config_beforeScan (r : Run) : r.beforeScan.scanner.config = r.scanner.config := by
  rw [beforeScan]
  split <;> rfl

/-- A snapshot of a state with the built-in delimiters is read as one with these, whatever it leaves
out. -/
theorem delimiters_decode_encode {capacity : Nat} {s : ScanState} (hs : s.delimiters = {}) :
    (Snapshot.decode capacity (Snapshot.encode capacity capacity s).bytes).state.delimiters =
      {} := by
  obtain ⟨hshort, hlong, -, -⟩ :=
    Snapshot.decode_encode capacity capacity capacity s (Snapshot.length_encode_le capacity s)
  rcases Nat.lt_or_ge (min capacity capacity) Snapshot.fixedBytes with hlt | hle
  · rw [(hshort hlt).2]
    rfl
  · have hclipped : Snapshot.clippedDelimiters {} = {} := by decide
    rw [hlong hle, Snapshot.restored, hs, hclipped]
    exact ite_self _

theorem delimiters_beforeScan (hs : r.scanner.state.delimiters = {}) :
    r.beforeScan.scanner.state.delimiters = {} := by
  rw [beforeScan]
  split
  · exact delimiters_decode_encode hs
  · exact hs

theorem BuiltinOnly.scan (hr : r.BuiltinOnly) : (r.scan valid).2.BuiltinOnly := by
  have hbefore := delimiters_beforeScan hr.delimiters
  have hconfig : r.beforeScan.scanner.config.delimiterChanges = false := by
    rw [config_beforeScan]
    exact hr.config
  -- under such settings no finding sets a delimiter
  have hsets : (r.scanAhead valid).reading.finding.setsDelimiter = false := by
    have hread := Lexing.setsDelimiter_read_fixed r.beforeScan.scanner.config
      r.beforeScan.scanner.state valid r.place.ahead
    rwa [ScanConfig.fixed_eq_self hconfig] at hread
  obtain ⟨hopening, hclosing⟩ := Finding.setsDelimiter_eq_false_iff.mp hsets
  refine ⟨?_, ?_, ?_, ?_, ?_⟩
  · rw [scanner_scan]
    exact hconfig
  · rw [scanner_scan]
    exact Finding.delimiters_apply_builtin hsets hbefore
  · rw [scannedStates_scan, List.forall_mem_append]
    exact ⟨hr.scanned, List.forall_mem_singleton.mpr hbefore⟩
  · exact neverFound_scan_iff.mpr ⟨by rwa [kind_scan], hr.none.opening⟩
  · exact neverFound_scan_iff.mpr ⟨by rwa [kind_scan], hr.none.closing⟩

theorem BuiltinOnly.move (hmove : Move p r next) (hr : r.BuiltinOnly) : next.BuiltinOnly := by
  cases hmove with
  | advance | toEnd =>
    exact ⟨hr.config, hr.delimiters, hr.scanned, hr.none.opening, hr.none.closing⟩
  | raise cause =>
    refine ⟨hr.config, hr.delimiters, ?_, hr.none.opening, hr.none.closing⟩
    rw [scannedStates_raise]
    exact hr.scanned
  | scan => exact hr.scan

theorem builtinOnly_start (capacity : Nat) (checkpoint : Bool) (text : String) :
    (start (.new { delimiterChanges := false, capacity }) checkpoint text).BuiltinOnly where
  config := rfl
  delimiters := rfl
  scanned := by
    intro s hs
    cases hs
  none := by
    refine ⟨?_, ?_⟩ <;>
    · intro t ht
      cases ht

/-- So it is after any moves. -/
theorem BuiltinOnly.reaches {last : Run} (hr : r.BuiltinOnly) (hreach : Reaches p r last) :
    last.BuiltinOnly :=
  hreach.keeps (fun _ _ => BuiltinOnly.move) hr

end BuiltinOnly

end Run

/-! ## Documents -/

theorem mem_tokens_parse {config : ScanConfig} {checkpoint : Bool} {text : String} {t : Token} :
    t ∈ (parse config checkpoint text).tokens ↔
      t ∈ (Run.start (.new config) checkpoint text).document.tokens :=
  List.mem_reverse

/-- Where no directive sets an opening delimiter, it does not matter whether one may. -/
theorem parse_fixed {config : ScanConfig} {checkpoint : Bool} {text : String}
    (hnone : ∀ t ∈ (parse config checkpoint text).tokens, t.kind ≠ .mustacheSetStartDelimiter) :
    parse config.fixed checkpoint text = parse config checkpoint text := by
  have hopening : (Run.start (.new config) checkpoint text).document.NeverFound
      .mustacheSetStartDelimiter := fun t ht => hnone t (mem_tokens_parse.mpr ht)
  have hfirst : (Run.start (.new config) checkpoint text).OpeningFirst := by
    intro _ t ht
    cases ht
  -- so none sets a closing one, and reading a document is a procedure
  have hstart : Run.start (.new config.fixed) checkpoint text =
    (Run.start (.new config) checkpoint text).fixed := rfl
  obtain ⟨-, hdocument⟩ := Run.acts_document.follows (Run.inStep_fixed _) hstart
    ⟨hopening, hfirst.document hopening⟩
  have hrun : run config.fixed checkpoint text = (run config checkpoint text).fixed :=
    congrArg Run.finish hdocument
  rw [parse, hrun]
  rfl

/-- **Whether delimiters may change matters only to directives.**  A document in which no new
opening delimiter is found comes to the same outcome if delimiters may not change.  And if they may
not, the built-in delimiters are in force after all moves from the beginning of a document on, such
as those that read it, in every scan of it and at its end, and no delimiter is set, whatever the
text and the capacity are and whether the state goes through snapshots or not. -/
theorem delimiters_fixed (capacity : Nat) (checkpoint : Bool) (text : String) :
    ((∀ t ∈ (parse { delimiterChanges := true, capacity } checkpoint text).tokens,
        t.kind ≠ .mustacheSetStartDelimiter) →
      parse { delimiterChanges := false, capacity } checkpoint text =
        parse { delimiterChanges := true, capacity } checkpoint text) ∧
    (∀ r, Run.Reaches TokenSet.Unrestricted
        (.start (.new { delimiterChanges := false, capacity }) checkpoint text) r →
      r.scanner.state.delimiters = {}) ∧
    (∀ s ∈ (run { delimiterChanges := false, capacity } checkpoint text).scannedStates,
      s.delimiters = {}) ∧
    (run { delimiterChanges := false, capacity } checkpoint text).scanner.state.delimiters = {} ∧
    ∀ t ∈ (parse { delimiterChanges := false, capacity } checkpoint text).tokens,
      t.kind ≠ .mustacheSetStartDelimiter ∧ t.kind ≠ .mustacheSetEndDelimiter := by
  have hstart := Run.builtinOnly_start capacity checkpoint text
  have hbuiltin := hstart.reaches (Run.acts_document.reaches _)
  refine ⟨fun hnone => parse_fixed hnone, fun r hreach => (hstart.reaches hreach).delimiters, ?_,
    hbuiltin.delimiters, ?_⟩
  · rw [run, runWith, Run.scannedStates_finish]
    exact hbuiltin.scanned
  · intro t ht
    have hmem := mem_tokens_parse.mp ht
    exact ⟨hbuiltin.none.opening t hmem, hbuiltin.none.closing t hmem⟩

/-- Two directives that set nothing: one without a delimiter, and one that the text ends in. -/
def idleDirectives : String :=
  "<p>\x7B\x7B==\x7D\x7D\x7B\x7Bx\x7D\x7D\x7B\x7B=<%"

theorem delimiters_fixed_idleDirectives :
    (parse { delimiterChanges := true, capacity := 64 } true idleDirectives).issues ≠ [] ∧
      parse { delimiterChanges := false, capacity := 64 } true idleDirectives =
        parse { delimiterChanges := true, capacity := 64 } true idleDirectives := by
  refine ⟨by decide +kernel, (delimiters_fixed 64 true idleDirectives).1 ?_⟩
  decide +kernel

end Document

end TemplateScan
