import Mathlib.Data.List.Forall2
import TemplateScan.Proofs.Document.Reading
import TemplateScan.Proofs.Document.Scans

/-!
# The elements that begin

What happens in a run tells which elements begin, and in which state each of them does.  To each of
them belongs a start tag: the token of its name, and the tokens before it.  Nothing but a scan for
the name in a start tag adds one.

* `NewElement`, `Run.newElements`: the elements that begin; `StartTag`, `Run.startTags`: their tags.
* `Run.Begun`: what holds of each of them and its start tag.
* `Begun.scan`: a scan adds an element only with the name that it finds.
* `Begun.procedure`: what looks for no start tag adds none.
* `Begun.content`: in the content of an element, one is looked for only at a `<` where the scanner
  finds nothing.
-/

namespace TemplateScan

open Text Markup

/-- Whether a token of the kind is the name in a start tag. -/
def TokenKind.isStartTagName : TokenKind → Bool
  | .startTagName | .scriptStartTagName | .styleStartTagName => true
  | _ => false

/-- An element that begins, and the state before the scan that opens it. -/
structure NewElement where
  before : ScanState
  tag : Tag
deriving DecidableEq

/-- The elements that begin in what happens, both the latest first. -/
def newElements : List Event → List NewElement
  | .scanned before _ (some kind) :: .elementOpened tag :: earlier =>
    if kind.isStartTagName then ⟨before, tag⟩ :: newElements earlier else newElements earlier
  | _ :: earlier => newElements earlier
  | [] => []

/-- The name in a start tag, and the tokens found before it, the latest first. -/
structure StartTag where
  name : Token
  earlier : List Token

/-- The start tags whose names are among the tokens, both the latest first. -/
def startTags : List Token → List StartTag
  | [] => []
  | token :: earlier =>
    if token.kind.isStartTagName then ⟨token, earlier⟩ :: startTags earlier else startTags earlier

/-- The element that the token of a finding opens. -/
def Finding.newElement? (before : ScanState) : Finding → Option NewElement
  | startTag tag => some ⟨before, tag⟩
  | _ => none

section Events

variable (before : ScanState) (valid : TokenSet) (kind : TokenKind) (trace : List Event)

/-- Only decisions of scans let elements begin. -/
theorem newElements_append_of_not_decision {events : List Event}
    (hevents : ∀ event ∈ events, event.isDecision = false) :
    newElements (events ++ trace) = newElements trace := by
  induction events with
  | nil => rfl
  | cons event events ih =>
    obtain ⟨hevent, hlater⟩ := List.forall_mem_cons.mp hevents
    rw [← ih hlater]
    cases event with
    | scanned => cases hevent
    | _ => rfl

theorem newElements_scanned_none :
    newElements (.scanned before valid none :: trace) = newElements trace := rfl

theorem newElements_scanned_opened (tag : Tag) (hkind : kind.isStartTagName = true) :
    newElements (.scanned before valid (some kind) :: .elementOpened tag :: trace) =
      ⟨before, tag⟩ :: newElements trace := by
  rw [newElements, if_pos hkind]

theorem newElements_scanned_some (hkind : kind.isStartTagName = false) :
    newElements (.scanned before valid (some kind) :: trace) = newElements trace := by
  rcases trace with _ | ⟨event, trace⟩
  · rfl
  · cases event with
    | elementOpened tag =>
      rw [newElements, if_neg (by simp [hkind])]
      rfl
    | _ => rfl

end Events

/-- The kind of a start tag is one of those for the names of start tags. -/
theorem Finding.exists_kind?_startTag (tag : Tag) :
    ∃ kind, (startTag tag).kind? = some kind ∧ kind.isStartTagName = true := by
  rw [kind?]
  split
  · exact ⟨_, rfl, rfl⟩
  · exact ⟨_, rfl, rfl⟩
  · exact ⟨_, rfl, rfl⟩

/-- An element is added if and only if the finding is the name in its start tag. -/
theorem newElements_events (scan : Scan) (trace : List Event) :
    newElements (scan.events.reverse ++ trace) =
      (scan.reading.finding.newElement? scan.before.state).toList ++ newElements trace := by
  rw [Scan.events, Scan.kind?, List.reverse_append, List.reverse_singleton, List.singleton_append,
    List.cons_append]
  cases scan.reading.finding with
  | nothing => exact newElements_scanned_none ..
  | startTag tag =>
    obtain ⟨kind, hkind, hstart⟩ := Finding.exists_kind?_startTag tag
    rw [hkind]
    exact newElements_scanned_opened _ _ kind trace tag hstart
  | endTag | selfClosing | implicitEnd =>
    -- an element is closed, or nothing is open
    rw [Finding.events]
    rcases scan.before.state.tags.top? with _ | parent
    · exact newElements_scanned_some _ _ _ trace rfl
    · exact newElements_scanned_some _ _ _ (_ :: trace) rfl
  | newOpening | newClosing | sectionStart => exact newElements_scanned_some _ _ _ (_ :: trace) rfl
  | _ => exact newElements_scanned_some _ _ _ trace rfl

namespace Document.Run

open TokenSet Lexing

/-- The kinds of the names in start tags. -/
abbrev startTagNames : TokenSet :=
  .ofList [.startTagName, .scriptStartTagName, .styleStartTagName]

/-- The elements that have begun, the latest first. -/
def newElements (r : Run) : List NewElement :=
  TemplateScan.newElements r.trace

/-- The start tags whose names were found, the latest first. -/
def startTags (r : Run) : List StartTag :=
  TemplateScan.startTags r.tokens

/-- It holds of every element that has begun and its start tag. -/
def Begun (P : NewElement → StartTag → Prop) (r : Run) : Prop :=
  List.Forall₂ P r.newElements r.startTags

/-- It holds of the element that a scan for the name in a start tag opens, if it finds one, and of
the tag of this name. -/
def ScanBegins (P : NewElement → StartTag → Prop) (r : Run) (valid : TokenSet) : Prop :=
  ∀ tag kind, (r.scanAhead valid).reading.finding = .startTag tag →
    P ⟨r.beforeScan.scanner.state, tag⟩ ⟨⟨kind, (r.scanAhead valid).cursor.span⟩, r.tokens⟩

section Begun

variable {P : NewElement → StartTag → Prop} {r last : Run} {valid : TokenSet}

/-- A snapshot lets no element begin. -/
theorem newElements_beforeScan (r : Run) : r.beforeScan.newElements = r.newElements := by
  rw [beforeScan]
  split
  · -- all that is told of a snapshot is what it leaves out and whether it could be read
    apply newElements_append_of_not_decision
    simp only [List.mem_reverse, List.mem_append]
    rintro event (hsaving | hrestoring)
    · split at hsaving
      · cases hsaving
      · rw [List.mem_singleton.mp hsaving]
        rfl
    · split at hrestoring
      · rw [List.mem_singleton.mp hrestoring]
        rfl
      · cases hrestoring
  · rfl

theorem newElements_scan (r : Run) (valid : TokenSet) :
    (r.scan valid).2.newElements =
      ((r.scanAhead valid).reading.finding.newElement? r.beforeScan.scanner.state).toList ++
        r.newElements := by
  rw [newElements, trace_scan, newElements_events, ← r.newElements_beforeScan]
  rfl

theorem startTags_scan (r : Run) (valid : TokenSet) :
    (r.scan valid).2.startTags =
      ((r.scanAhead valid).token?.filter (·.kind.isStartTagName)).toList.map (⟨·, r.tokens⟩) ++
        r.startTags := by
  rw [startTags, tokens_scan, startTags]
  cases (r.scanAhead valid).token? with
  | none => rfl
  | some token =>
    cases hkind : token.kind.isStartTagName with
    | false => simp [Option.filter, TemplateScan.startTags, hkind]
    | true => simp [Option.filter, TemplateScan.startTags, hkind]

/-- **A scan adds an element only with the name that it finds.** -/
theorem Begun.scan (hr : r.Begun P) (hnew : r.ScanBegins P valid) : (r.scan valid).2.Begun P := by
  rw [Begun, newElements_scan, startTags_scan, Scan.token?, Scan.kind?]
  cases hfinding : (r.scanAhead valid).reading.finding with
  | startTag tag =>
    -- both lists get longer by one, the element and its start tag
    obtain ⟨kind, hkind, hstart⟩ := Finding.exists_kind?_startTag tag
    rw [hkind]
    simp only [Option.map_some, Option.filter_some, hstart, if_true]
    exact .cons (hnew tag kind hfinding) hr
  | _ => exact hr

theorem Begun.move (hmove : Move NoStartTag r last) (hr : r.Begun P) : last.Begun P := by
  cases hmove with
  | advance | toEnd | raise => exact hr
  | @scan valid hvalid =>
    apply hr.scan
    intro tag _ hfinding
    -- a name in a start tag is not admissible
    have hadmitted := r.beforeScan.scanner.scan_admitted valid r.place
    rw [show (r.beforeScan.scanner.scan valid r.place).reading.finding = _ from hfinding]
      at hadmitted
    have hstart : valid.contains .startTagName = true := hadmitted
    rw [hvalid] at hstart
    cases hstart

/-- What looks for no start tag adds no element. -/
theorem Begun.procedure {α : Type} {c : Run → α × Run} (hc : Procedure NoStartTag c)
    (hr : r.Begun P) : (c r).2.Begun P :=
  (hc.reaches r).keeps (fun _ _ => Begun.move) hr

theorem Begun.acts {f : Run → Run} (hf : Acts NoStartTag f) (hr : r.Begun P) : (f r).Begun P :=
  hr.procedure hf

/-! ## Documents -/

/-- Behind the name in a start tag no further one is looked for. -/
theorem Begun.startTag (hr : r.Begun P) (hnew : (r.advance 1).ScanBegins P startTagNames) :
    r.startTag.2.Begun P := by
  have hmark : (r.advance 1).Begun P := hr
  have hname := hmark.scan hnew
  rw [Run.startTag]
  split
  · next hscan =>
    rw [hscan] at hname
    exact hname.acts (.raise _)
  · next kind name hscan =>
    rw [hscan] at hname
    have hattributes := hname.procedure procedure_attributes
    split
    · next hend => rwa [hend] at hattributes
    · next hend =>
      rw [hend] at hattributes
      split
      · exact hattributes.acts acts_rawTextBody
      · exact hattributes

theorem Begun.markup (hr : r.Begun P)
    (hnew : ∀ rest, r.ahead = '<' :: rest → (r.advance 1).ScanBegins P startTagNames) :
    r.markup.2.Begun P := by
  unfold Run.markup
  split
  · exact hr
  · exact hr
  · exact hr
  · exact hr.acts acts_declaration
  · next rest _ _ _ hahead =>
    have hstart := hr.startTag (hnew rest hahead)
    split
    · next heq => rwa [heq] at hstart
    · next heq => rwa [heq] at hstart
  · exact hr

/-- In the content of an element, a start tag is looked for only at a `<` where the scanner has
found nothing. -/
theorem Begun.content {inElement : Bool} (hr : r.Begun P)
    (hnew : ∀ next rest, r.skipBlanks.scan (contentTokens inElement) = (none, next) →
      next.ahead = '<' :: rest → (next.advance 1).ScanBegins P startTagNames) :
    (r.content inElement).2.Begun P := by
  have hnoStart : (contentTokens inElement).NoStartTag := by cases inElement <;> rfl
  have hblanks : r.skipBlanks.Begun P := hr.acts acts_skipBlanks
  have hscan := hblanks.move (.scan _ hnoStart)
  rw [Run.content]
  split
  · next heq => rwa [heq] at hscan
  · next heq =>
    rw [heq] at hscan
    exact hscan.acts acts_mustacheTag
  · next heq => rwa [heq] at hscan
  · next next heq =>
    rw [heq] at hscan
    exact hscan.markup (hnew next · heq)

/-- The run behind a step through a document, whether it goes on or the document is read. -/
def stepRun (s : Run × Nat) : Run :=
  (documentStep s).elim id Prod.fst

theorem Begun.documentStep {depth : Nat} (hr : r.Begun P)
    (hnew : ∀ next rest, r.skipBlanks.scan (contentTokens (0 < depth)) = (none, next) →
      next.ahead = '<' :: rest → (next.advance 1).ScanBegins P startTagNames) :
    (stepRun (r, depth)).Begun P := by
  have hcontent := hr.content hnew
  rw [stepRun, Run.documentStep]
  rcases hx : r.content (0 < depth) with ⟨progress, last⟩
  rw [hx] at hcontent
  cases progress with
  | content | elementBegun | elementEnded => exact hcontent
  | endTagAhead =>
    have hend := hcontent.procedure procedure_endTag
    dsimp only
    split
    · next heq => rwa [heq] at hend
    · next heq => rwa [heq] at hend
  | textEnded =>
    dsimp only
    split
    · exact hcontent
    · exact hcontent.acts (.raise _)

end Begun

end Document.Run

end TemplateScan
