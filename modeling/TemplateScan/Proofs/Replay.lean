import TemplateScan.Proofs.Lexing.Findings
import TemplateScan.Proofs.Scanning
import TemplateScan.Proofs.Text.Stretches

/-!
# The state is the replay of the tokens

Who sees only what the scans come to, the kinds and the texts of the tokens, knows the state: each
token says what it does to it.  More than that, a token says what the state was like before it, as a
scope closes under its own name only.

* `Observation`: what is seen of a scan.
* `Observation.effect`, `Observation.Fits`: what it does to the state, and what it says of the state
  before.
* `exists_observation`: one scan changes the state as its observation says.
* `exists_observations`: any scans over any texts leave the state that their observations tell.
-/

namespace TemplateScan

open Text Markup Mustache

/-! ## Observations -/

/-- What is seen of a scan: that it finds nothing, or the kind and the text of the token found. -/
inductive Observation where
  | declined
  | found (kind : TokenKind) (text : List Char)
deriving DecidableEq, Repr

namespace Observation

/-- The state after what is observed. -/
def effect (s : ScanState) : Observation → ScanState
  | declined => s
  | found kind text =>
    match kind with
    | .startTagName | .scriptStartTagName | .styleStartTagName =>
      { s with tags := s.tags.push (Lexing.tagOf text) }
    | .endTagName | .selfClosingTagDelimiter | .implicitEndTag => { s with tags := s.tags.pop }
    | .mustacheSectionName => { s with sections := s.sections.push (String.ofList text) }
    | .mustacheEndSectionName => { s with sections := s.sections.pop }
    | .mustacheSetStartDelimiter =>
      { s with delimiters := { s.delimiters with opening := .ofText (String.ofList text) } }
    | .mustacheSetEndDelimiter =>
      { s with delimiters :=
        { s.delimiters with
          closing := .ofText (String.ofList text)
          previousClosing := s.delimiters.closing } }
    | .mustacheOldEndDelimiter =>
      { s with delimiters := { s.delimiters with previousClosing := .builtin } }
    | .erroneousEndTagName | .rawText | .comment | .mustacheStartDelimiter | .mustacheEndDelimiter
    | .mustacheErroneousEndSectionName | .mustacheIdentifier | .mustacheComment | .mustacheText => s

/-- What is observed can be so in the state: the category of an element tells the kind of its start
tag, an end tag closes the innermost element if and only if it has its name, no element ends where
none is open, and a new delimiter is not empty. -/
def Fits (s : ScanState) : Observation → Prop
  | declined => True
  | found kind text =>
    match kind with
    | .startTagName =>
      (Lexing.tagOf text).category ≠ .script ∧ (Lexing.tagOf text).category ≠ .style
    | .scriptStartTagName => (Lexing.tagOf text).category = .script
    | .styleStartTagName => (Lexing.tagOf text).category = .style
    | .endTagName => s.tags.top? = some (Lexing.tagOf text)
    | .erroneousEndTagName => s.tags.top? ≠ some (Lexing.tagOf text)
    | .selfClosingTagDelimiter | .implicitEndTag => s.tags.top?.isSome
    | .mustacheEndSectionName => s.sections.top? = some (String.ofList text)
    | .mustacheErroneousEndSectionName => s.sections.top? ≠ some (String.ofList text)
    | .mustacheSetStartDelimiter | .mustacheSetEndDelimiter => text ≠ []
    | .rawText | .comment | .mustacheStartDelimiter | .mustacheEndDelimiter
    | .mustacheOldEndDelimiter | .mustacheSectionName | .mustacheIdentifier | .mustacheComment
    | .mustacheText => True

/-- Each observation can be so in the state that those before it leave. -/
def AllFit : ScanState → List Observation → Prop
  | _, [] => True
  | s, o :: later => o.Fits s ∧ AllFit (o.effect s) later

end Observation

/-! ## Findings and observations -/

/-- What is observed of a finding whose token has the given text. -/
def Finding.observation (text : List Char) (finding : Finding) : Observation :=
  match finding.kind? with
  | none => .declined
  | some kind => .found kind text

section Finding

variable {s : ScanState} {text : List Char} {finding : Finding}

theorem Nesting.top?_of_closes {α : Type} [DecidableEq α] {scopes : Nesting α} {scope : α} :
    scopes.closes scope = true ↔ scopes.top? = some scope :=
  beq_iff_eq

theorem Nesting.isSome_top? {α : Type} {scopes : Nesting α} (hopen : scopes.isEmpty = false) :
    scopes.top?.isSome := by
  obtain ⟨_ | ⟨first, later⟩⟩ := scopes
  · cases hopen
  · rfl

/-- The kind of a start tag is the one for the category of its element. -/
theorem Finding.observation_startTag (s : ScanState) (text : List Char) :
    ((Finding.startTag (Lexing.tagOf text)).observation text).effect s =
        { s with tags := s.tags.push (Lexing.tagOf text) } ∧
      ((Finding.startTag (Lexing.tagOf text)).observation text).Fits s := by
  rw [observation, kind?]
  cases hcategory : (Lexing.tagOf text).category <;>
    simp [Observation.effect, Observation.Fits, hcategory]

/-- What a finding does to the state is what is observed of it. -/
theorem Finding.effect_observation (htells : finding.Tells s text) :
    (finding.observation text).effect s = finding.apply s := by
  cases finding with
  | startTag tag =>
    obtain ⟨-, rfl⟩ := htells
    exact (observation_startTag s text).1
  | newOpening spelling | newClosing spelling | sectionStart name =>
    obtain ⟨-, rfl⟩ := htells
    rfl
  | _ => rfl

/-- What is observed of a finding can be so in the state that it is made in. -/
theorem Finding.fits_observation (htells : finding.Tells s text) :
    (finding.observation text).Fits s := by
  cases finding with
  | startTag tag =>
    obtain ⟨-, rfl⟩ := htells
    exact (observation_startTag s text).2
  | endTag | sectionEnd => exact Nesting.top?_of_closes.mp htells.2
  | erroneousEndTag | erroneousSectionEnd =>
    intro htop
    have hcloses := Nesting.top?_of_closes.mpr htop
    rw [htells.2] at hcloses
    cases hcloses
  | selfClosing | implicitEnd => exact Nesting.isSome_top? htells.2
  | newOpening spelling | newClosing spelling => exact htells.1
  | _ => trivial

end Finding

/-! ## Scans -/

/-- What a scan is asked for: a token of an admissible kind at a place of a text. -/
structure ScanRequest where
  text : List Char
  valid : TokenSet
  entry : Place
  entry_isIn : entry.IsIn text

namespace Scanner

/-- The scanner after one more scan. -/
def answer (s : Scanner) (request : ScanRequest) : Scanner :=
  (s.scan request.valid request.entry).after

/-- The scanner after some scans, one after the other. -/
def answerAll (s : Scanner) (requests : List ScanRequest) : Scanner :=
  requests.foldl answer s

/-- What is seen of a scan, unless the span of its token is no stretch of the text. -/
def observation? (s : Scanner) (request : ScanRequest) : Option Observation :=
  match (s.scan request.valid request.entry).token? with
  | none => some .declined
  | some t => (t.span.textIn? request.text).map (.found t.kind)

/-- What is seen of some scans, one after the other. -/
def observations? (s : Scanner) : List ScanRequest → Option (List Observation)
  | [] => some []
  | request :: later => do
    let o ← s.observation? request
    let os ← (s.answer request).observations? later
    return o :: os

section Replay

variable (s : Scanner) (request : ScanRequest)

/-- The text that a scan finds at a place of a text. -/
theorem observation?_eq :
    s.observation? request = some ((s.scan request.valid request.entry).reading.finding.observation
      ((request.entry.ahead.drop (s.scan request.valid request.entry).reading.skipped).take
        (s.scan request.valid request.entry).reading.length)) := by
  rw [observation?, Scan.token?, Finding.observation, ← Scan.kind?]
  cases (s.scan request.valid request.entry).kind? with
  | none => rfl
  | some kind =>
    show Option.map _ (Span.textIn? _ _) = _
    rw [Scan.cursor_span]
    exact congrArg _ (Span.textIn?_advance request.entry_isIn _ _)

/-- One scan changes the state as its observation says, which can be so in the state before. -/
theorem exists_observation :
    ∃ o, s.observation? request = some o ∧ o.Fits s.state ∧
      (s.answer request).state = o.effect s.state := by
  obtain ⟨htells, -⟩ :=
    Lexing.read_holds s.config s.state request.valid request.entry.ahead
  exact ⟨_, s.observation?_eq request, Finding.fits_observation htells,
    (Finding.effect_observation htells).symm⟩

/-- **The state is the replay of the tokens.**  Whatever the scanner, and whatever it is asked for
at places of whatever texts, every token found is a stretch of its text; each token, or its absence,
can be so in the state that those before it leave; and the state in the end is what they do to the
first one, one after the other. -/
theorem exists_observations (requests : List ScanRequest) :
    ∃ os, s.observations? requests = some os ∧ Observation.AllFit s.state os ∧
      (s.answerAll requests).state = os.foldl Observation.effect s.state := by
  induction requests generalizing s with
  | nil => exact ⟨[], rfl, trivial, rfl⟩
  | cons request later ih =>
    obtain ⟨o, ho, hfits, hstate⟩ := s.exists_observation request
    obtain ⟨os, hos, hall, hlast⟩ := ih (s.answer request)
    rw [hstate] at hall hlast
    refine ⟨o :: os, ?_, ⟨hfits, hall⟩, hlast⟩
    rw [observations?, ho, hos]
    rfl

end Replay

end Scanner

end TemplateScan
