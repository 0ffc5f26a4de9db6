import TemplateScan.Proofs.Document.Checkpoint
import TemplateScan.Proofs.Document.Scans

/-!
# Elements and sections do not influence each other

Elements and sections are nested independently.  Which sections are open decides only whether a name
in a closing section tag closes one, and no more than the kind of its token tells it; all else of a
run is the same whatever sections are open.  And which elements are open decides nothing about
sections and delimiters.

* `blurred`: a kind, a token or a finding up to whether a name in a closing section tag closes a
  section.
* `blurred_read`: the open sections decide nothing else of a reading.
* `SameButSections`: two runs that differ in their sections only; `inStep_sections`: every step
  leaves them so.
* `nestings_separate`: neither nesting influences the other.
-/

namespace TemplateScan

open Text Markup Mustache

/-! ## Up to the ends of sections -/

/-- The kind of a token, but for whether a name in a closing section tag closes a section. -/
def TokenKind.blurred : TokenKind → TokenKind
  | .mustacheErroneousEndSectionName => .mustacheEndSectionName
  | kind => kind

/-- A token, but for whether a name in a closing section tag closes a section. -/
def Token.blurred (t : Token) : Token :=
  { t with kind := t.kind.blurred }

/-- A finding, but for whether a name in a closing section tag closes a section. -/
def Finding.blurred : Finding → Finding
  | .erroneousSectionEnd => .sectionEnd
  | finding => finding

/-- A reading with its finding blurred. -/
def Reading.blurred (r : Reading) : Reading :=
  { r with finding := r.finding.blurred }

namespace Finding

variable (finding : Finding) {s s' : ScanState}

theorem kind?_blurred : finding.blurred.kind? = finding.kind?.map TokenKind.blurred := by
  cases finding with
  | startTag tag =>
    show (startTag tag).kind? = _
    rw [kind?]
    split <;> rfl
  | _ => rfl

theorem tags_apply_blurred (s : ScanState) :
    (finding.blurred.apply s).tags = (finding.apply s).tags := by
  cases finding <;> rfl

theorem delimiters_apply_blurred (s : ScanState) :
    (finding.blurred.apply s).delimiters = (finding.apply s).delimiters := by
  cases finding <;> rfl

/-- A finding that opens and closes no section, and sets no delimiter. -/
def KeepsSections : Prop :=
  ∀ s, (finding.apply s).sections = s.sections ∧ (finding.apply s).delimiters = s.delimiters

theorem tags_apply (htags : s'.tags = s.tags) :
    (finding.apply s').tags = (finding.apply s).tags := by
  cases finding <;> simp [apply, htags]

theorem sections_apply (hsections : s'.sections = s.sections) :
    (finding.apply s').sections = (finding.apply s).sections := by
  cases finding <;> simp [apply, hsections]

theorem delimiters_apply (hdelimiters : s'.delimiters = s.delimiters) :
    (finding.apply s').delimiters = (finding.apply s).delimiters := by
  cases finding <;> simp [apply, hdelimiters]

end Finding

namespace Lexing

variable {config : ScanConfig} {s s' : ScanState} {valid : TokenSet} {ahead : List Char}

/-! ## What the sections decide -/

/-- No recognizer outside mustache tags looks at the sections. -/
theorem atNext_sections (htags : s'.tags = s.tags) (hdelimiters : s'.delimiters = s.delimiters) :
    atNext s' valid ahead = atNext s valid ahead := by
  obtain ⟨tags, sections, delimiters⟩ := s
  obtain ⟨tags', sections', delimiters'⟩ := s'
  obtain rfl : tags' = tags := htags
  obtain rfl : delimiters' = delimiters := hdelimiters
  rfl

theorem blurred_sectionEnd (d : Delimiters) (sections sections' : Nesting String) :
    (sectionEnd d sections' ahead).blurred = (sectionEnd d sections ahead).blurred := by
  rw [sectionEnd, sectionEnd]
  split
  · rfl
  · split <;> split <;> rfl

/-- Where no name in a closing section tag is admissible, the open sections decide nothing. -/
theorem mustachePart?_sections (hvalid : valid.NoSectionEnd)
    (hdelimiters : s'.delimiters = s.delimiters) :
    mustachePart? config s' valid ahead = mustachePart? config s valid ahead := by
  simp [mustachePart?, hvalid.1, hvalid.2, hdelimiters]

/-- And elsewhere they decide only whether one is closed. -/
theorem blurred_mustachePart? (hdelimiters : s'.delimiters = s.delimiters) :
    (mustachePart? config s' valid ahead).map Reading.blurred =
      (mustachePart? config s valid ahead).map Reading.blurred := by
  simp only [mustachePart?, hdelimiters]
  repeat' split
  all_goals first | rfl | exact congrArg some (blurred_sectionEnd _ _ _)

theorem read_sections (hvalid : valid.NoSectionEnd) (htags : s'.tags = s.tags)
    (hdelimiters : s'.delimiters = s.delimiters) :
    read config s' valid ahead = read config s valid ahead := by
  simp only [read, atToken, htags, mustachePart?_sections hvalid hdelimiters,
    atNext_sections htags hdelimiters]

/-- The open sections decide nothing of a reading but whether a name in a closing section tag closes
one. -/
theorem blurred_read (htags : s'.tags = s.tags) (hdelimiters : s'.delimiters = s.delimiters) :
    (read config s' valid ahead).blurred = (read config s valid ahead).blurred := by
  have htoken (ahead : List Char) :
      (atToken config s' valid ahead).blurred = (atToken config s valid ahead).blurred := by
    have hpart := @blurred_mustachePart? config s s' valid ahead hdelimiters
    rw [atToken, atToken]
    cases hfirst : mustachePart? config s valid ahead with
    | none =>
      rw [hfirst, Option.map_none, Option.map_eq_none_iff] at hpart
      simp only [hpart, atNext_sections htags hdelimiters]
    | some reading =>
      rw [hfirst, Option.map_some, Option.map_eq_some_iff] at hpart
      obtain ⟨reading', hother, hblurred⟩ := hpart
      simp only [hother, hblurred]
  rw [read, read, htags]
  split
  · rfl
  · -- what is passed over is the same
    exact congrArg (fun r : Reading => { r with skipped := (ahead.takeWhile isBlank).length })
      (htoken (ahead.drop (ahead.takeWhile isBlank).length))

/-! ## What the elements decide -/

/-- Where no part of a mustache tag is looked for, no kind is admissible that opens or closes a
section or sets a delimiter. -/
theorem contains_of_mustachePart?_eq_none (hnone : mustachePart? config s valid ahead = none) :
    ∀ kind ∈ [TokenKind.mustacheSetStartDelimiter, .mustacheSetEndDelimiter,
      .mustacheOldEndDelimiter, .mustacheSectionName, .mustacheEndSectionName,
      .mustacheErroneousEndSectionName], valid.contains kind = false := by
  unfold mustachePart? at hnone
  repeat' split at hnone
  all_goals simp_all

/-- So nothing is found that changes the sections or the delimiters. -/
theorem keepsSections_of_mustachePart?_eq_none {finding : Finding}
    (hnone : mustachePart? config s valid ahead = none) (hadmitted : finding.Admitted valid) :
    finding.KeepsSections := by
  have hcontains := contains_of_mustachePart?_eq_none hnone
  simp only [List.forall_mem_cons] at hcontains
  intro s
  cases finding with
  | newOpening | newClosing | directiveEnd | sectionStart | sectionEnd =>
    simp_all [Finding.Admitted]
  | _ => exact ⟨rfl, rfl⟩

theorem keepsSections_rawText (tags : Nesting Tag) (ahead : List Char) :
    (rawText tags ahead).finding.KeepsSections := by
  intro s
  rw [rawText]
  split <;> exact ⟨rfl, rfl⟩

theorem mustachePart?_tags (hsections : s'.sections = s.sections)
    (hdelimiters : s'.delimiters = s.delimiters) :
    mustachePart? config s' valid ahead = mustachePart? config s valid ahead := by
  simp only [mustachePart?, hsections, hdelimiters]

/-- The open elements decide nothing of what a scan does to the sections and the delimiters. -/
theorem apply_read_tags (hsections : s'.sections = s.sections)
    (hdelimiters : s'.delimiters = s.delimiters) :
    ((read config s' valid ahead).finding.apply s').sections =
        ((read config s valid ahead).finding.apply s).sections ∧
      ((read config s' valid ahead).finding.apply s').delimiters =
        ((read config s valid ahead).finding.apply s).delimiters := by
  have hkeep {f f' : Finding} (hf : f.KeepsSections) (hf' : f'.KeepsSections) :
      (f'.apply s').sections = (f.apply s).sections ∧
        (f'.apply s').delimiters = (f.apply s).delimiters := by
    rw [(hf s).1, (hf s).2, (hf' s').1, (hf' s').2]
    exact ⟨hsections, hdelimiters⟩
  rw [read, read]
  split
  · exact hkeep (keepsSections_rawText _ _) (keepsSections_rawText _ _)
  -- a part of a mustache tag is the same whatever elements are open, and nothing else changes these
  dsimp only
  generalize ahead.drop (ahead.takeWhile isBlank).length = ahead
  cases hpart : mustachePart? config s valid ahead with
  | some reading =>
    have hother := (mustachePart?_tags hsections hdelimiters).trans hpart
    simp only [atToken, hpart, hother]
    exact ⟨reading.finding.sections_apply hsections, reading.finding.delimiters_apply hdelimiters⟩
  | none =>
    have hother := (mustachePart?_tags hsections hdelimiters).trans hpart
    exact hkeep (keepsSections_of_mustachePart?_eq_none hpart (holds_atToken config).admitted)
      (keepsSections_of_mustachePart?_eq_none hother (holds_atToken config).admitted)

end Lexing

/-! ## Runs -/

namespace Document.Run

/-- Two plain runs that differ in their sections only, and in what of the tokens and the counts
comes from these. -/
structure SameButSections (r r' : Run) : Prop where
  plain : r.checkpoint = false
  plain' : r'.checkpoint = false
  size : r'.size = r.size
  place : r'.place = r.place
  config : r'.scanner.config = r.scanner.config
  tags : r'.scanner.state.tags = r.scanner.state.tags
  delimiters : r'.scanner.state.delimiters = r.scanner.state.delimiters
  issues : r'.issues = r.issues
  tokens : r'.tokens.map Token.blurred = r.tokens.map Token.blurred

namespace SameButSections

variable {r r' : Run} {valid : TokenSet}

theorem moveTo (h : SameButSections r r') (p : Place) :
    SameButSections (r.moveTo p) (r'.moveTo p) :=
  ⟨h.plain, h.plain', h.size, rfl, h.config, h.tags, h.delimiters, h.issues, h.tokens⟩

theorem raise (h : SameButSections r r') (cause : Cause) :
    SameButSections (r.raise cause) (r'.raise cause) where
  plain := h.plain
  plain' := h.plain'
  size := h.size
  place := h.place
  config := h.config
  tags := h.tags
  delimiters := h.delimiters
  issues := by
    show ⟨cause, r'.place.offset⟩ :: r'.issues = ⟨cause, r.place.offset⟩ :: r.issues
    rw [h.place, h.issues]
  tokens := h.tokens

theorem blurred_scanAhead (h : SameButSections r r') (valid : TokenSet) :
    (r'.scanAhead valid).reading.blurred = (r.scanAhead valid).reading.blurred := by
  rw [scanAhead, scanAhead, beforeScan_eq_self h.plain, beforeScan_eq_self h.plain', Scanner.scan,
    Scanner.scan]
  dsimp only
  rw [h.config, h.place]
  exact Lexing.blurred_read h.tags h.delimiters

theorem cursor_scanAhead (h : SameButSections r r') (valid : TokenSet) :
    (r'.scanAhead valid).cursor = (r.scanAhead valid).cursor := by
  -- blurring leaves the lengths of a reading as they are
  have hcursor (r : Run) : (r.scanAhead valid).cursor =
      (r.scanAhead valid).reading.blurred.follow r.place := rfl
  rw [hcursor, hcursor, h.blurred_scanAhead, h.place]

theorem blurred_kind? (h : SameButSections r r') (valid : TokenSet) :
    (r'.scanAhead valid).kind?.map TokenKind.blurred =
      (r.scanAhead valid).kind?.map TokenKind.blurred := by
  have hfinding := congrArg Reading.finding (h.blurred_scanAhead valid)
  rw [Scan.kind?, Scan.kind?, ← Finding.kind?_blurred, ← Finding.kind?_blurred]
  exact congrArg Finding.kind? hfinding

/-- A scan keeps both runs the same but for their sections. -/
theorem scan (h : SameButSections r r') (valid : TokenSet) :
    SameButSections (r.scan valid).2 (r'.scan valid).2 := by
  obtain ⟨hconfig, hplain⟩ := config_scan valid h.plain
  obtain ⟨hconfig', hplain'⟩ := config_scan valid h.plain'
  have hfinding : (r'.scanAhead valid).reading.finding.blurred =
      (r.scanAhead valid).reading.finding.blurred :=
    congrArg Reading.finding (h.blurred_scanAhead valid)
  have hkind := h.blurred_kind? valid
  constructor
  · exact hplain
  · exact hplain'
  · rw [size_scan, size_scan, h.size]
  · -- both move behind a token or neither does
    cases hfound : (r.scanAhead valid).kind? with
    | none =>
      rw [hfound, Option.map_none, Option.map_eq_none_iff] at hkind
      rw [place_scan_of_none _ _ hfound, place_scan_of_none _ _ hkind, h.place]
    | some kind =>
      rw [hfound, Option.map_some, Option.map_eq_some_iff] at hkind
      obtain ⟨kind', hfound', -⟩ := hkind
      rw [place_scan_of_some _ _ hfound, place_scan_of_some _ _ hfound', h.cursor_scanAhead]
  · rw [hconfig, hconfig', h.config]
  · rw [r.state_scan valid h.plain, r'.state_scan valid h.plain', ← Finding.tags_apply_blurred,
      hfinding, Finding.tags_apply_blurred]
    exact Finding.tags_apply _ h.tags
  · rw [r.state_scan valid h.plain, r'.state_scan valid h.plain',
      ← Finding.delimiters_apply_blurred, hfinding, Finding.delimiters_apply_blurred]
    exact Finding.delimiters_apply _ h.delimiters
  · rw [issues_scan, issues_scan, h.issues]
  · have htoken (r : Run) : (r.scanAhead valid).token?.map Token.blurred =
        ((r.scanAhead valid).kind?.map TokenKind.blurred).map
          (⟨·, (r.scanAhead valid).cursor.span⟩) := by
      rw [Scan.token?, Option.map_map, Option.map_map]
      rfl
    rw [tokens_scan, tokens_scan, List.map_append, List.map_append, h.tokens]
    simp only [← Option.toList_map, htoken, hkind, h.cursor_scanAhead]

/-- So does one that notes an issue where nothing is found. -/
theorem expect (h : SameButSections r r') (valid : TokenSet) (cause : Cause) :
    SameButSections (r.expect valid cause) (r'.expect valid cause) := by
  have hscan := h.scan valid
  have hkind := h.blurred_kind? valid
  rw [← kind_scan, ← kind_scan] at hkind
  rw [Run.expect, Run.expect]
  rcases hfirst : r.scan valid with ⟨_ | kind, next⟩ <;>
    rcases hsecond : r'.scan valid with ⟨_ | kind', next'⟩ <;>
    simp only [hfirst, hsecond] at hscan hkind
  · exact hscan.raise cause
  · cases hkind
  · cases hkind
  · exact hscan

end SameButSections

/-- Every step keeps two runs the same but for their sections. -/
theorem inStep_sections (p : TokenSet → Prop) : InStep p (fun _ => True) SameButSections where
  kept_of_move _ _ := trivial
  size h := h.size
  place h := h.place
  delimiters h := h.delimiters
  advance {r r'} n h := by
    rw [advance, advance, h.place]
    exact h.moveTo _
  toEnd {r r'} h := by
    rw [toEnd, toEnd, h.size]
    exact h.moveTo _
  raise cause h := h.raise cause
  scan {r r' valid} _ hvalid h _ := by
    refine ⟨?_, h.scan valid⟩
    -- no kind tells of a section here, so the kinds are the same
    rw [kind_scan, kind_scan, Scan.kind?, Scan.kind?, scanAhead, scanAhead,
      beforeScan_eq_self h.plain, beforeScan_eq_self h.plain', Scanner.scan, Scanner.scan]
    dsimp only
    rw [h.config, h.place, Lexing.read_sections hvalid h.tags h.delimiters]
  expect {r r' valid} cause _ h _ := h.expect valid cause

end Document.Run

/-! ## Both nestings -/

namespace Document

/-- **Neither nesting influences the other.**  Whatever sections are open when two scanners begin to
read a document, the tokens are the same up to whether the names in closing section tags close
sections, and so are the issues, the elements left open and the delimiters in the end.  And whatever
elements are open, a scan does the same to the sections and the delimiters. -/
theorem nestings_separate :
    (∀ (s s' : Scanner) (text : String), s'.config = s.config → s'.state.tags = s.state.tags →
      s'.state.delimiters = s.state.delimiters →
      (runWith s' false text).outcome.tokens.map Token.blurred =
          (runWith s false text).outcome.tokens.map Token.blurred ∧
        (runWith s' false text).outcome.issues = (runWith s false text).outcome.issues ∧
        (runWith s' false text).outcome.openTags = (runWith s false text).outcome.openTags ∧
        (runWith s' false text).scanner.state.delimiters =
          (runWith s false text).scanner.state.delimiters) ∧
    ∀ (s s' : Scanner) (valid : TokenSet) (entry : Place), s'.config = s.config →
      s'.state.sections = s.state.sections → s'.state.delimiters = s.state.delimiters →
      (s'.scan valid entry).after.state.sections = (s.scan valid entry).after.state.sections ∧
        (s'.scan valid entry).after.state.delimiters =
          (s.scan valid entry).after.state.delimiters := by
  refine ⟨?_, ?_⟩
  · -- the two runs differ in the open sections alone, and every procedure keeps it so
    intro s s' text hconfig htags hdelimiters
    have hstart : (Run.start s false text).SameButSections (Run.start s' false text) :=
      ⟨rfl, rfl, rfl, rfl, hconfig, htags, hdelimiters, rfl, rfl⟩
    obtain ⟨-, hend⟩ := Run.acts_document.follows (Run.inStep_sections _) hstart trivial
    refine ⟨?_, ?_, ?_, ?_⟩
    · show (Run.document _).tokens.reverse.map _ = (Run.document _).tokens.reverse.map _
      rw [List.map_reverse, List.map_reverse, hend.tokens]
    · exact congrArg List.reverse hend.issues
    · exact congrArg Nesting.toList hend.tags
    · exact hend.delimiters
  · intro s s' valid entry hconfig hsections hdelimiters
    rw [Scan.after, Scan.after, Scanner.scan, Scanner.scan, hconfig]
    exact Lexing.apply_read_tags hsections hdelimiters

/-- A closing section tag on its own. -/
def sectionClosed : String :=
  "\x7b\x7b/a\x7d\x7d"

/-- A scanner inside a section. -/
def inSection : Scanner where
  state := { sections := .ofList ["a"] }

/-- A scanner inside a section, which is inside a list item. -/
def inSectionOfListItem : Scanner where
  state := { tags := .ofList [.known .li], sections := .ofList ["a"] }

/-- Inside the section the tag closes it and elsewhere nothing, and this is all the difference.  It
closes the section inside a list item as well. -/
theorem nestings_separate_sectionClosed :
    (runWith {} false sectionClosed).outcome.tokens ≠
        (runWith inSection false sectionClosed).outcome.tokens ∧
      (runWith {} false sectionClosed).outcome.tokens.map Token.blurred =
        (runWith inSection false sectionClosed).outcome.tokens.map Token.blurred ∧
      (inSectionOfListItem.scan (.singleton .mustacheEndSectionName)
        ⟨3, ['a', '\x7d', '\x7d']⟩).after.state.sections = .empty := by
  obtain ⟨htokens, -, -, -⟩ := nestings_separate.1 inSection {} sectionClosed rfl rfl rfl
  obtain ⟨hsections, -⟩ := nestings_separate.2 inSection inSectionOfListItem
    (.singleton .mustacheEndSectionName) ⟨3, ['a', '\x7d', '\x7d']⟩ rfl rfl rfl
  refine ⟨by decide +kernel, htokens, ?_⟩
  rw [hsections]
  decide +kernel

end Document

end TemplateScan
