import TemplateScan.Lexing.Reading

/-!
# Raw text

The body of a script or style element is not markup.  It ends before the end tag of the element, in
upper or lower case, or at the end of the text; there, a beginning of the end tag is left out of it.

The end is found in one pass that holds how much of the end tag has just been read.  Only its first
character is `<`, so a mismatch at another `<` begins the end tag anew and any other mismatch
belongs to the body.
-/

namespace TemplateScan.Lexing

open Markup

/-- What the body of the element ends before, in upper case. -/
def bodyEnd (tag : Tag) : List Char :=
  if tag.category = .script then "</SCRIPT".toList else "</STYLE".toList

/-- Reads the body, after `read` characters of which the last `matched` begin `literal` and the
first `length` are known to be the body: its length and the number of characters read. -/
def bodyLength (literal : List Char) (matched length read : Nat) : List Char → Nat × Nat
  | [] => (length, read)
  | c :: rest =>
    if literal[matched]? = some c.toUpper then
      if matched + 1 = literal.length then (length, read)
      else bodyLength literal (matched + 1) length (read + 1) rest
    else if c = '<' then bodyLength literal 1 read (read + 1) rest
    else bodyLength literal 0 (read + 1) (read + 1) rest

/-- The body of the innermost element. -/
def rawText (tags : Nesting Tag) (ahead : List Char) : Reading :=
  match tags.top? with
  | none => .decline 0
  | some tag =>
    let (length, read) := bodyLength (bodyEnd tag) 0 0 0 ahead
    .ofLength .rawText length read

end TemplateScan.Lexing
