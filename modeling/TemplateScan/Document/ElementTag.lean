import TemplateScan.Document.MustacheTag

/-!
# Start tags, end tags and raw text

A start tag is a name and attributes up to `>` or `/>`.  Mustache tags may stand between the
attributes.  The body of a script or style element is read together with its start tag.
-/

namespace TemplateScan.Document

open Text

namespace Run

/-! ## End tags -/

/-- Reads the `>` of an end tag. -/
def closeAngle (r : Run) : Run :=
  let r := r.skipBlanks
  if r.next? = some '>' then r.advance 1 else r.raise .missingCloseAngle

/-- Reads an end tag from its `</` on; gives the kind of its name. -/
def endTag (r : Run) : Option TokenKind × Run :=
  match (r.advance 2).scan (.ofList [.endTagName, .erroneousEndTagName]) with
  | (none, r) => (none, (r.raise .missingTagName).closeAngle)
  | (some kind, r) => (some kind, r.closeAngle)

/-- Reads the body of a script or style element and its end tag. -/
def rawTextBody (r : Run) : Run :=
  let r := (r.scan (.singleton .rawText)).2
  if ['<', '/'].isPrefixOf r.ahead then r.endTag.2 else r.raise .missingEndTag

/-! ## Attributes -/

/-- Whether a character may stand in the name of an attribute. -/
def isAttributeNameChar (c : Char) : Bool :=
  !(isBlank c || c == '=' || c == '>' || c == '/')

/-- Reads a value up to the given quote, from behind the quote that begins it. -/
def quotedValue (quote : Char) (r : Run) : Run :=
  match r.ahead.idxOf? quote with
  | some n => r.advance (n + 1)
  | none => (r.raise .unterminatedStartTag).toEnd

/-- Reads the value of an attribute. -/
def attributeValue (r : Run) : Run :=
  match r.next? with
  | none => r
  | some c =>
    if c = '"' || c = '\'' then (r.advance 1).quotedValue c
    else r.skipWhile fun c => !(isBlank c || c == '>')

/-- Reads an attribute: a name and, behind `=`, a value.  A character that begins no name is passed
over. -/
def oneAttribute (r : Run) : Run :=
  if r.next?.any isAttributeNameChar then
    let r := (r.skipWhile isAttributeNameChar).skipBlanks
    if r.next? = some '=' then (r.advance 1).skipBlanks.attributeValue else r
  else (r.raise .unexpectedCharacter).advance 1

/-- Whether the opening delimiter is ahead. -/
def atOpening (r : Run) : Bool :=
  r.scanner.state.delimiters.openingText.isPrefixOf r.ahead

/-- Reads the next part of a start tag behind its name.  The tag ends (`inl`) with content to follow
or without. -/
def attributeStep (r : Run) : (Bool × Run) ⊕ Run :=
  let r := r.skipBlanks
  match r.next? with
  | none => .inl (false, r.raise .unterminatedStartTag)
  | some '>' => .inl (true, r.advance 1)
  | some '/' =>
    match r.scan (.singleton .selfClosingTagDelimiter) with
    | (some _, r) => .inl (false, r)
    | (none, r) => .inr ((r.raise .unexpectedCharacter).advance 1)
  | some _ =>
    if r.atOpening then
      match r.scan (.singleton .mustacheStartDelimiter) with
      | (some _, r) => .inr r.mustacheTag
      | (none, r) => .inr (r.advance 1)
    else .inr r.oneAttribute

/-- Reads a start tag from behind its name to its end; tells whether content follows. -/
def attributes (r : Run) : Bool × Run :=
  iterate remaining attributeStep (false, ·) r

/-! ## Start tags -/

/-- Reads an element from its `<` to where content follows.  Tells whether content follows: a void
element counts as having some until it ends by implication. -/
def startTag (r : Run) : Bool × Run :=
  match (r.advance 1).scan (.ofList [.startTagName, .scriptStartTagName, .styleStartTagName]) with
  | (none, r) => (false, r.raise .missingTagName)
  | (some kind, r) =>
    match r.attributes with
    | (false, r) => (false, r)
    | (true, r) =>
      if kind = .scriptStartTagName || kind = .styleStartTagName then (false, r.rawTextBody)
      else (true, r)

end Run

end TemplateScan.Document
