import TemplateScan.ScanState
import TemplateScan.Token.Kind

/-!
# Findings and readings

What the scanner finds at a position is a *finding*: a token with what it carries, or nothing.  The
finding alone says how the state changes, so finding nothing changes nothing.  A *reading* says in
addition how many characters were passed over, how many belong to the token and how many had to be
looked at behind it.
-/

namespace TemplateScan

open Markup

/-- A token as it is found, with what it carries. -/
inductive Finding where
  /-- No token. -/
  | nothing
  /-- The name in the start tag of an element. -/
  | startTag (tag : Tag)
  /-- The name in the end tag of the innermost element. -/
  | endTag
  /-- The name in an end tag of something else. -/
  | erroneousEndTag
  /-- The end of a start tag that closes its element. -/
  | selfClosing
  /-- The place where the innermost element ends without an end tag. -/
  | implicitEnd
  /-- The body of a script or style element. -/
  | rawText
  /-- A comment of the markup. -/
  | comment
  /-- The opening delimiter. -/
  | opening
  /-- The closing delimiter. -/
  | closing
  /-- The opening delimiter that a directive sets. -/
  | newOpening (spelling : String)
  /-- The closing delimiter that a directive sets. -/
  | newClosing (spelling : String)
  /-- The closing delimiter of a directive. -/
  | directiveEnd
  /-- The name of a section that opens. -/
  | sectionStart (name : String)
  /-- The name of the innermost section, which closes. -/
  | sectionEnd
  /-- The name of something else in a closing section tag. -/
  | erroneousSectionEnd
  /-- One part of the path of a variable. -/
  | identifier
  /-- The text of a mustache comment. -/
  | mustacheComment
  /-- Plain text. -/
  | text
deriving DecidableEq, Repr, Inhabited

namespace Finding

/-- The kind of the token found. -/
def kind? : Finding → Option TokenKind
  | nothing => none
  | startTag tag => match tag.category with
    | .script => some .scriptStartTagName
    | .style => some .styleStartTagName
    | _ => some .startTagName
  | endTag => some .endTagName
  | erroneousEndTag => some .erroneousEndTagName
  | selfClosing => some .selfClosingTagDelimiter
  | implicitEnd => some .implicitEndTag
  | rawText => some .rawText
  | comment => some .comment
  | opening => some .mustacheStartDelimiter
  | closing => some .mustacheEndDelimiter
  | newOpening _ => some .mustacheSetStartDelimiter
  | newClosing _ => some .mustacheSetEndDelimiter
  | directiveEnd => some .mustacheOldEndDelimiter
  | sectionStart _ => some .mustacheSectionName
  | sectionEnd => some .mustacheEndSectionName
  | erroneousSectionEnd => some .mustacheErroneousEndSectionName
  | identifier => some .mustacheIdentifier
  | mustacheComment => some .mustacheComment
  | text => some .mustacheText

/-- The state after the token found. -/
def apply (s : ScanState) : Finding → ScanState
  | startTag tag => { s with tags := s.tags.push tag }
  | endTag | selfClosing | implicitEnd => { s with tags := s.tags.pop }
  | sectionStart name => { s with sections := s.sections.push name }
  | sectionEnd => { s with sections := s.sections.pop }
  | newOpening spelling => { s with delimiters := s.delimiters.setOpening spelling }
  | newClosing spelling => { s with delimiters := s.delimiters.setClosing spelling }
  | directiveEnd => { s with delimiters := s.delimiters.releasePrevious }
  | nothing | erroneousEndTag | rawText | comment | opening | closing | erroneousSectionEnd
  | identifier | mustacheComment | text => s

end Finding

/-- A finding with the characters it takes: those passed over, those of the token, and those that
had to be looked at behind it. -/
structure Reading where
  finding : Finding
  /-- The characters passed over before the token. -/
  skipped : Nat := 0
  /-- The characters of the token. -/
  length : Nat := 0
  /-- The characters read behind the token. -/
  beyond : Nat := 0
  /-- Whether a count on the way went over the greatest number that it can hold. -/
  overflowed : Bool := false
deriving DecidableEq, Repr, Inhabited

namespace Reading

/-- The token of the given length, for which `read` characters in all were looked at. -/
def ofLength (finding : Finding) (length read : Nat) : Reading :=
  { finding, length, beyond := read - length }

/-- Nothing is found after reading `n` characters. -/
def decline (n : Nat) : Reading :=
  { finding := .nothing, beyond := n }

/-- The next `n` characters are the token. -/
def take (finding : Finding) (n : Nat) : Reading :=
  { finding, length := n }

/-- The token is at the position itself and has no characters, which takes reading `n` of them to
tell. -/
def here (finding : Finding) (n : Nat) : Reading :=
  { finding, beyond := n }

end Reading

end TemplateScan
