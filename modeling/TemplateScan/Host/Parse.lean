import TemplateScan.Host.ElementTag
import TemplateScan.Document.Parse

/-!
# Documents by bytes

A host reads a document step by step, as `Document.Parse` tells it by characters.  What is known of
the document is told if no step is a fault.
-/

namespace TemplateScan.Document

open Text

namespace Host

variable {text : String}

/-- Reads a declaration such as a document type. -/
def declaration (h : Host text) : Except Fault (Host text) :=
  h.skipPast '>' .missingCloseAngle

/-- Reads on where content is ahead but the scanner has found nothing. -/
def markup (h : Host text) : Except Fault (Progress × Host text) := do
  match ← h.ahead with
  | [] => return (.textEnded, h)
  | '<' :: '/' :: _ => return (.endTagAhead, h)
  | '<' :: '!' :: '-' :: '-' :: _ => return (.content, (h.raise .unterminatedComment).toEnd)
  | '<' :: '!' :: _ => return (.content, ← h.declaration)
  | '<' :: _ =>
    match ← h.startTag with
    | (true, h) => return (.elementBegun, h)
    | (false, h) => return (.content, h)
  | _ => return (.content, ← (h.raise .unexpectedCharacter).bump)

/-- Reads the next piece of content. -/
def content (h : Host text) (inElement : Bool) : Except Fault (Progress × Host text) := do
  let h ← h.skipBlanks
  match ← h.scan (Run.contentTokens inElement) with
  | (some .implicitEndTag, h) => return (.elementEnded, h)
  | (some .mustacheStartDelimiter, h) => return (.content, ← h.mustacheTag)
  | (some _, h) => return (.content, h)
  | (none, h) => h.markup

/-- Reads the next piece of a document of which `depth` elements are open.  The depth after it,
unless the document is read (`inl`). -/
def documentStep : Host text × Nat → Except Fault (Host text ⊕ (Host text × Nat))
  | (h, depth) => do
    match ← h.content (0 < depth) with
    | (.content, h) => return .inr (h, depth)
    | (.elementBegun, h) => return .inr (h, depth + 1)
    | (.elementEnded, h) => return .inr (h, depth - 1)
    | (.endTagAhead, h) =>
      match ← h.endTag with
      | (some .endTagName, h) => return .inr (h, depth - 1)
      | (_, h) => return .inr (h, depth)
    | (.textEnded, h) =>
      if depth = 0 then return .inl h
      else return .inr (h.raise .missingEndTag, depth - 1)

/-- Measures what is left of a document. -/
def documentLeft : Host text × Nat → Nat
  | (h, depth) => 2 * h.remaining + depth

/-- Reads a document. -/
def document (h : Host text) : Except Fault (Host text) :=
  repeatStep documentLeft documentStep (h, 0)

/-- Ends the reading. -/
def finish (h : Host text) : Host text :=
  h.log [.finished h.tokens.length h.issues.length h.scanner.state.tags.size
    h.scanner.state.sections.size]

/-- What is known when the reading is over. -/
def outcome (h : Host text) : Outcome where
  tokens := h.tokens.reverse
  issues := h.issues.reverse
  openTags := h.scanner.state.tags.toList
  openSections := h.scanner.state.sections.toList

/-- What happened in the reading, in order. -/
def events (h : Host text) : List Event :=
  h.trace.reverse

end Host

/-- Reads a document by bytes with a scanner in any state.  `checked` tells whether it is checked
that no count goes over. -/
def readWith (scanner : Scanner) (checkpoint checked : Bool) (text : String) :
    Except Fault (Host text) := do
  let h ← (Host.start scanner checkpoint checked text).document
  return h.finish

/-- Reads a document by bytes with a new scanner. -/
def readNew (config : ScanConfig) (checkpoint checked : Bool) (text : String) :
    Except Fault (Host text) :=
  readWith (.new config) checkpoint checked text

/-- What is known of a document that has been read by bytes. -/
def readOutcome (config : ScanConfig) (checkpoint checked : Bool) (text : String) :
    Except Fault Outcome := do
  let h ← readNew config checkpoint checked text
  return h.outcome

end TemplateScan.Document
