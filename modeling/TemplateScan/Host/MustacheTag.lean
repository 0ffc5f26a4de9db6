import TemplateScan.Host.Steps
import TemplateScan.Text.Alphanumeric
import TemplateScan.Document.MustacheTag

/-!
# Mustache tags by bytes

How a host reads a mustache tag from behind its opening delimiter, as `Document.MustacheTag` tells
it by characters.
-/

namespace TemplateScan.Document

open Text

namespace Host

variable {text : String}

/-- Reads the closing delimiter. -/
def closingDelimiter (h : Host text) : Except Fault (Host text) :=
  h.expect (.singleton .mustacheEndDelimiter) .missingEndDelimiter

/-! ## Paths -/

/-- Reads one part of a path and the dot behind it.  The path goes on (`inr`) behind a dot. -/
def pathStep (h : Host text) : Except Fault (Host text ⊕ Host text) := do
  match ← h.scan (.singleton .mustacheIdentifier) with
  | (none, h) => return .inl (h.raise .missingIdentifier)
  | (some _, h) =>
    if (← h.next?) = some '.' then return .inr (h.goOn 1)
    else return .inl h

/-- Reads a path, parts with dots in between. -/
def path (h : Host text) : Except Fault (Host text) :=
  repeatStep remaining pathStep h

/-! ## Directives -/

/-- Goes behind the next closing delimiter, or to the end of the text. -/
def skipPastClosing (h : Host text) : Except Fault (Host text) := do
  let closing := h.scanner.state.delimiters.closingText
  match findText? closing (← h.ahead) with
  | some bytes => return h.goOn (bytes + Utf8.byteLength closing)
  | none => return h.toEnd

/-- Gives a directive up: the document goes on behind the closing delimiter. -/
def rejectDirective (h : Host text) : Except Fault (Host text) :=
  (h.raise .rejectedDelimiterChange).skipPastClosing

/-- Reads the end of a directive: `=` and the closing delimiter in force before it. -/
def directiveEnd (h : Host text) : Except Fault (Host text) := do
  let next? ← h.next?
  (if next? = some '=' then h.goOn 1 else h.raise .unexpectedCharacter).expect
    (.singleton .mustacheOldEndDelimiter) .missingEndDelimiter

/-- Reads a directive from behind its first `=`. -/
def directive (h : Host text) : Except Fault (Host text) := do
  match ← h.scan (.singleton .mustacheSetStartDelimiter) with
  | (none, h) => h.rejectDirective
  | (some _, h) =>
    match ← h.scan (.singleton .mustacheSetEndDelimiter) with
    | (none, h) => h.rejectDirective
    | (some _, h) => h.directiveEnd

/-! ## Tags -/

/-- Reads a comment from behind its `!`. -/
def mustacheComment (h : Host text) : Except Fault (Host text) := do
  match ← h.scan (.singleton .mustacheComment) with
  | (none, h) => return (h.raise .missingEndDelimiter).toEnd
  | (some _, h) => h.closingDelimiter

/-- Reads the name of a section behind its sign, of an admissible kind, and the closing
delimiter. -/
def sectionTag (h : Host text) (valid : TokenSet) : Except Fault (Host text) := do
  let h ← h.expect valid .missingSectionName
  h.closingDelimiter

/-- Reads the path of a value and the closing delimiter. -/
def value (h : Host text) : Except Fault (Host text) := do
  let h ← h.path
  h.closingDelimiter

/-- Reads the path of a value in braces, from behind the brace on, and the brace that ends it. -/
def bracedPath (h : Host text) : Except Fault (Host text) := do
  let h ← h.path
  let h ← h.skipBlanks
  if (← h.next?) = some '}' then return h.goOn 1
  else return h

/-- Reads a value in braces from behind the brace on. -/
def bracedValue (h : Host text) : Except Fault (Host text) := do
  let h ← h.bracedPath
  h.closingDelimiter

/-- Reads a value that begins with a dot: the current one, unless a name goes on behind the dot. -/
def dottedValue (h : Host text) : Except Fault (Host text) := do
  let later ← sliceFrom (← h.ahead) 1
  if Run.endsName later then (h.goOn 1).closingDelimiter
  else h.value

/-- Reads a mustache tag from the character that tells its sort. -/
def mustacheBody (h : Host text) : Except Fault (Host text) := do
  match ← h.next? with
  | some '#' | some '^' => (h.goOn 1).sectionTag (.singleton .mustacheSectionName)
  | some '/' =>
    (h.goOn 1).sectionTag (.ofList [.mustacheEndSectionName, .mustacheErroneousEndSectionName])
  | some '!' => (h.goOn 1).mustacheComment
  | some '=' => (h.goOn 1).directive
  | some '{' => (h.goOn 1).bracedValue
  | some '&' | some '>' => (h.goOn 1).value
  | some '.' => h.dottedValue
  | _ => h.value

/-- Reads a mustache tag from behind its opening delimiter. -/
def mustacheTag (h : Host text) : Except Fault (Host text) := do
  let h ← h.skipBlanks
  h.mustacheBody

end Host

end TemplateScan.Document
