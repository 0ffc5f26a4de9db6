import TemplateScan.Lexing.Literal
import TemplateScan.Lexing.Reading
import TemplateScan.Text.Blank

/-!
# Inside mustache tags

Delimiters, the parts of directives, paths and section names.  All but the delimiters themselves are
runs of characters up to one that cannot belong to them; where the text ends instead, most of them
are not complete and are not found.
-/

namespace TemplateScan.Lexing

open Text Mustache

/-- The whole delimiter. -/
def delimiter (finding : Finding) (literal ahead : List Char) : Reading :=
  let n := matchLength literal ahead
  if n = literal.length then .take finding n else .decline n

/-- Whether a character is the first one of the closing delimiter in force. -/
def beginsClosing (d : Delimiters) (c : Char) : Bool :=
  d.closingText.head? == some c

/-! ## Directives -/

/-- The opening delimiter that a directive sets: characters up to a blank or `=`. -/
def newOpening (ahead : List Char) : Reading :=
  let text := ahead.takeWhile fun c => !(isBlank c || c == '=')
  if text.isEmpty || (ahead.drop text.length).isEmpty then .decline text.length
  else .take (.newOpening (String.ofList text)) text.length

/-- The closing delimiter that a directive sets: characters up to `=`, with no blank before it. -/
def newClosing (ahead : List Char) : Reading :=
  let text := ahead.takeWhile fun c => !(isBlank c || c == '=')
  if text.isEmpty || (ahead.drop text.length).head? ≠ some '=' then .decline text.length
  else .take (.newClosing (String.ofList text)) text.length

/-! ## Names -/

/-- One part of the path of a variable: characters up to a dot, a blank or the closing delimiter. -/
def identifier (d : Delimiters) (ahead : List Char) : Reading :=
  let part := ahead.takeWhile fun c => !(c == '.' || isBlank c || beginsClosing d c)
  if part.isEmpty || (ahead.drop part.length).isEmpty then .decline part.length
  else .take .identifier part.length

/-- The section name ahead: characters up to a blank, the closing delimiter or the end of the
text. -/
def sectionName (d : Delimiters) (ahead : List Char) : List Char :=
  ahead.takeWhile fun c => !(isBlank c || beginsClosing d c)

/-- The name of a section that opens. -/
def sectionStart (d : Delimiters) (ahead : List Char) : Reading :=
  let name := sectionName d ahead
  if name.isEmpty then .decline 0 else .take (.sectionStart (String.ofList name)) name.length

/-- The name in a closing section tag, which closes the innermost section or nothing. -/
def sectionEnd (d : Delimiters) (sections : Nesting String) (ahead : List Char) : Reading :=
  let name := sectionName d ahead
  if name.isEmpty then .decline 0
  else
    .take (if sections.closes (String.ofList name) then .sectionEnd else .erroneousSectionEnd)
      name.length

/-- The text of a comment: characters up to the closing delimiter. -/
def mustacheComment (d : Delimiters) (ahead : List Char) : Reading :=
  let text := ahead.takeWhile fun c => !beginsClosing d c
  if (ahead.drop text.length).isEmpty then .decline text.length
  else .take .mustacheComment text.length

end TemplateScan.Lexing
