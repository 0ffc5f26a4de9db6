import TemplateScan.Host.MustacheTag
import TemplateScan.Document.ElementTag

/-!
# Start tags, end tags and raw text by bytes

How a host reads tags and the bodies of script and style elements, as `Document.ElementTag` tells it
by characters.
-/

namespace TemplateScan.Document

open Text

namespace Host

variable {text : String}

/-! ## End tags -/

/-- Reads the `>` of an end tag. -/
def closeAngle (h : Host text) : Except Fault (Host text) := do
  let h ← h.skipBlanks
  if (← h.next?) = some '>' then return h.goOn 1
  else return h.raise .missingCloseAngle

/-- Reads an end tag from its `</` on; gives the kind of its name. -/
def endTag (h : Host text) : Except Fault (Option TokenKind × Host text) := do
  let (kind?, h) ← (h.goOn 2).scan (.ofList [.endTagName, .erroneousEndTagName])
  let h ← (if kind?.isNone then h.raise .missingTagName else h).closeAngle
  return (kind?, h)

/-- Reads the body of a script or style element and its end tag. -/
def rawTextBody (h : Host text) : Except Fault (Host text) := do
  let (_, h) ← h.scan (.singleton .rawText)
  if ['<', '/'].isPrefixOf (← h.ahead) then
    let (_, h) ← h.endTag
    return h
  else return h.raise .missingEndTag

/-! ## Attributes -/

/-- Goes behind the next byte that is a mark, or notes an issue and goes to the end of the text. -/
def skipPast (h : Host text) (mark : Char) (cause : Cause) : Except Fault (Host text) := do
  match byteIndex? mark.toNat.toUInt8 (← h.ahead) with
  | some n => return h.goOn (n + 1)
  | none => return (h.raise cause).toEnd

/-- Reads the value of an attribute. -/
def attributeValue (h : Host text) : Except Fault (Host text) := do
  match ← h.next? with
  | none => return h
  | some c =>
    if c = '"' || c = '\'' then (h.goOn 1).skipPast c .unterminatedStartTag
    else
      let (_, h) ← h.takeWhile fun c => !(isBlank c || c == '>')
      return h

/-- Reads an attribute: a name and, behind `=`, a value.  A character that begins no name is passed
over. -/
def oneAttribute (h : Host text) : Except Fault (Host text) := do
  let (bytes, h) ← h.takeWhile Run.isAttributeNameChar
  if bytes = 0 then (h.raise .unexpectedCharacter).bump
  else
    let h ← h.skipBlanks
    if (← h.next?) = some '=' then
      let h ← (h.goOn 1).skipBlanks
      h.attributeValue
    else return h

/-- Whether the opening delimiter is ahead. -/
def atOpening (h : Host text) : Except Fault Bool := do
  let ahead ← h.ahead
  return h.scanner.state.delimiters.openingText.isPrefixOf ahead

/-- Reads a mustache tag between attributes.  Where the scanner finds none, a character is passed
over. -/
def tagInside (h : Host text) : Except Fault (Host text) := do
  match ← h.scan (.singleton .mustacheStartDelimiter) with
  | (some _, h) => h.mustacheTag
  | (none, h) => h.bump

/-- Reads a mustache tag or an attribute. -/
def attributePart (h : Host text) : Except Fault (Host text) := do
  if ← h.atOpening then h.tagInside
  else h.oneAttribute

/-- Reads the next part of a start tag behind its name.  The tag ends (`inl`) with content to follow
or without. -/
def attributeStep (h : Host text) : Except Fault ((Bool × Host text) ⊕ Host text) := do
  let h ← h.skipBlanks
  match ← h.next? with
  | none => return .inl (false, h.raise .unterminatedStartTag)
  | some '>' => return .inl (true, h.goOn 1)
  | some '/' =>
    match ← h.scan (.singleton .selfClosingTagDelimiter) with
    | (some _, h) => return .inl (false, h)
    | (none, h) => return .inr ((h.raise .unexpectedCharacter).goOn 1)
  | some _ => return .inr (← h.attributePart)

/-- Reads a start tag from behind its name to its end; tells whether content follows. -/
def attributes (h : Host text) : Except Fault (Bool × Host text) :=
  repeatStep remaining attributeStep h

/-! ## Start tags -/

/-- Reads an element from its `<` to where content follows.  Tells whether content follows: a void
element counts as having some until it ends by implication. -/
def startTag (h : Host text) : Except Fault (Bool × Host text) := do
  let h ← h.bump
  match ← h.scan (.ofList [.startTagName, .scriptStartTagName, .styleStartTagName]) with
  | (none, h) => return (false, h.raise .missingTagName)
  | (some kind, h) =>
    match ← h.attributes with
    | (false, h) => return (false, h)
    | (true, h) =>
      if kind = .scriptStartTagName || kind = .styleStartTagName then
        return (false, ← h.rawTextBody)
      else return (true, h)

end Host

end TemplateScan.Document
