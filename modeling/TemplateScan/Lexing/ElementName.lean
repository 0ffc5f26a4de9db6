import TemplateScan.Lexing.Reading
import TemplateScan.Markup.Containment
import TemplateScan.Text.Alphanumeric
import TemplateScan.Text.Uppercase

/-!
# Tag names and implied ends

Start and end tags are recognised by their names alone.  A name is the longest run of letters,
numbers, `-` and `:`, and it denotes the tag that its upper-case form denotes.

An element that has no end tag ends where the tag ahead leaves no other reading: where an element
begins that it cannot contain, where an end tag comes that closes an element around it, or, for the
elements of the document frame, at the end of the text.  One element ends at a time.
-/

namespace TemplateScan.Lexing

open Text Markup

/-! ## Names -/

/-- Whether a character may stand in a tag name. -/
def isNameChar (c : Char) : Bool :=
  isAlphanumeric c || c == '-' || c == ':'

/-- The tag name ahead, as it is written. -/
def tagName (ahead : List Char) : List Char :=
  ahead.takeWhile isNameChar

/-- The upper-case form of a tag name. -/
def upperName (name : List Char) : String :=
  String.ofList (uppercaseAll name)

/-- The tag that a written name denotes. -/
def tagOf (name : List Char) : Tag :=
  .ofName (upperName name)

/-- The name of a start tag. -/
def startTagName (ahead : List Char) : Reading :=
  let name := tagName ahead
  if name.isEmpty then .decline 0 else .take (.startTag (tagOf name)) name.length

/-- The name of an end tag, which closes the innermost element or nothing. -/
def endTagName (tags : Nesting Tag) (ahead : List Char) : Reading :=
  let name := tagName ahead
  if name.isEmpty then .decline 0
  else .take (if tags.closes (tagOf name) then .endTag else .erroneousEndTag) name.length

/-- The end of a start tag that closes its element, read from the slash on.  Without an open element
the two characters are read in vain. -/
def selfClosing (tags : Nesting Tag) : List Char → Reading
  | '/' :: '>' :: _ => if tags.isEmpty then .decline 2 else .take .selfClosing 2
  | _ => .decline 1

/-! ## Implied ends -/

/-- Whether the innermost element ends where an end tag comes: it is not the one that the tag names,
but one of this kind is open. -/
def endsBeforeEndTag (tags : Nesting Tag) (next : Tag) : Bool :=
  !tags.closes next && tags.any next.sameKind

/-- Whether the innermost element ends where a start tag comes: it cannot contain the new element,
or it belongs to the document frame and the text ends with the name. -/
def endsBeforeStartTag (tags : Nesting Tag) (next : Tag) (atEnd : Bool) : Bool :=
  match tags.top? with
  | none => false
  | some parent => !parent.canContain next || (parent.category ∈ [.html, .head, .body] && atEnd)

/-- Reads the name in a tag, of which `consumed` characters are read, to tell whether the innermost
element ends before the tag.  The end of the text counts as a tag without a name. -/
def impliedEndBefore (ends : Tag → Bool → Bool) (consumed : Nat) (ahead : List Char) : Reading :=
  let name := tagName ahead
  let rest := ahead.drop name.length
  let read := consumed + name.length
  if name.isEmpty && !rest.isEmpty then .decline read
  else if ends (tagOf name) rest.isEmpty then .here .implicitEnd read
  else .decline read

/-- Whether the innermost element ends at the tag of which `consumed` characters are read, or at the
end of the text.  A void element ends at once unless an end tag comes. -/
def impliedEnd (tags : Nesting Tag) (consumed : Nat) : List Char → Reading
  | '/' :: ahead => impliedEndBefore (fun next _ => endsBeforeEndTag tags next) (consumed + 1) ahead
  | ahead =>
    if tags.top?.any Tag.isVoid then .here .implicitEnd consumed
    else impliedEndBefore (endsBeforeStartTag tags) consumed ahead

end TemplateScan.Lexing
