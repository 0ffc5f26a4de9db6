import TemplateScan.Document.ElementTag

/-!
# Documents

A document is read step by step.  Elements may be nested to any depth, so the depth is a number that
start and end tags change, not a recursion.

* Each step but the last leaves less of the document or, at the same place, fewer open elements.
-/

namespace TemplateScan.Document

open Text Markup

/-- What a step through the content of an element comes to. -/
inductive Progress where
  /-- Content was read. -/
  | content
  /-- An element has begun whose content follows. -/
  | elementBegun
  /-- The innermost element has ended by implication. -/
  | elementEnded
  /-- An end tag is ahead. -/
  | endTagAhead
  /-- The text is at its end. -/
  | textEnded
deriving DecidableEq, Repr, Inhabited

namespace Run

/-- The kinds of tokens that the content of a document or, where `inElement`, of an element may
begin with. -/
def contentTokens (inElement : Bool) : TokenSet :=
  let outside := TokenSet.ofList [.comment, .mustacheStartDelimiter, .mustacheText]
  if inElement then outside.insert .implicitEndTag else outside

/-- Reads a declaration such as a document type. -/
def declaration (r : Run) : Run :=
  match r.ahead.idxOf? '>' with
  | some n => r.advance (n + 1)
  | none => (r.raise .missingCloseAngle).toEnd

/-- Reads on where content is ahead but the scanner has found nothing. -/
def markup (r : Run) : Progress × Run :=
  match r.ahead with
  | [] => (.textEnded, r)
  | '<' :: '/' :: _ => (.endTagAhead, r)
  | '<' :: '!' :: '-' :: '-' :: _ => (.content, (r.raise .unterminatedComment).toEnd)
  | '<' :: '!' :: _ => (.content, r.declaration)
  | '<' :: _ =>
    match r.startTag with
    | (true, r) => (.elementBegun, r)
    | (false, r) => (.content, r)
  | _ => (.content, (r.raise .unexpectedCharacter).advance 1)

/-- Reads the next piece of content. -/
def content (r : Run) (inElement : Bool) : Progress × Run :=
  match r.skipBlanks.scan (contentTokens inElement) with
  | (some .implicitEndTag, r) => (.elementEnded, r)
  | (some .mustacheStartDelimiter, r) => (.content, r.mustacheTag)
  | (some _, r) => (.content, r)
  | (none, r) => r.markup

/-- Ends a run. -/
def finish (r : Run) : Run :=
  r.log [.finished r.tokens.length r.issues.length r.scanner.state.tags.size
    r.scanner.state.sections.size]

/-- Reads the next piece of a document of which `depth` elements are open.  The depth after it,
unless the document is read (`inl`). -/
def documentStep : Run × Nat → Run ⊕ (Run × Nat)
  | (r, depth) =>
    match r.content (0 < depth) with
    | (.content, r) => .inr (r, depth)
    | (.elementBegun, r) => .inr (r, depth + 1)
    | (.elementEnded, r) => .inr (r, depth - 1)
    | (.endTagAhead, r) =>
      match r.endTag with
      | (some .endTagName, r) => .inr (r, depth - 1)
      | (_, r) => .inr (r, depth)
    | (.textEnded, r) => if depth = 0 then .inl r else .inr (r.raise .missingEndTag, depth - 1)

/-- Measures what is left of a document: an element begun takes more than one byte away. -/
def documentLeft : Run × Nat → Nat
  | (r, depth) => 2 * r.remaining + depth

/-- Reads a document. -/
def document (r : Run) : Run :=
  iterate documentLeft documentStep Prod.fst (r, 0)

end Run

/-- What is known of a document that has been read. -/
structure Outcome where
  tokens : List Token
  issues : List Issue
  /-- The elements that are still open, the outermost first. -/
  openTags : List Tag
  /-- The sections that are still open, the outermost first. -/
  openSections : List String
deriving DecidableEq, Repr, Inhabited

namespace Run

/-- What is known when the run is over. -/
def outcome (r : Run) : Outcome where
  tokens := r.tokens.reverse
  issues := r.issues.reverse
  openTags := r.scanner.state.tags.toList
  openSections := r.scanner.state.sections.toList

/-- What happened in the run, in order. -/
def events (r : Run) : List Event :=
  r.trace.reverse

end Run

/-- Reads a document with a scanner in any state. -/
def runWith (scanner : Scanner) (checkpoint : Bool) (text : String) : Run :=
  (Run.start scanner checkpoint text).document.finish

/-- Reads a document with a new scanner. -/
def run (config : ScanConfig) (checkpoint : Bool) (text : String) : Run :=
  runWith (.new config) checkpoint text

/-- What is known of a document. -/
def parse (config : ScanConfig) (checkpoint : Bool) (text : String) : Outcome :=
  (run config checkpoint text).outcome

end TemplateScan.Document
