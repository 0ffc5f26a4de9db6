import TemplateScan.Text.Blank

/-!
# Pieces of a text

Texts cut at separators: into lines at line feeds, into words at blanks.
-/

namespace TemplateScan.Text

/-- The pieces of a text between separators, onto those found before, the latest first, and the
current one, its latest character first. -/
def splitOnto (isSeparator : Char → Bool) (done : List (List Char)) (current : List Char) :
    List Char → List (List Char)
  | [] => (current.reverse :: done).reverse
  | c :: rest =>
    if isSeparator c then splitOnto isSeparator (current.reverse :: done) [] rest
    else splitOnto isSeparator done (c :: current) rest

/-- The pieces of a text between separators.  There is one more than there are separators. -/
def split (isSeparator : Char → Bool) (cs : List Char) : List (List Char) :=
  splitOnto isSeparator [] [] cs

/-- A line that a line feed ends, without the carriage return that may come before the line feed. -/
def withoutReturn (line : List Char) : List Char :=
  if line.getLast? = some '\r' then line.dropLast else line

/-- The lines of a text.  The last one need not be ended by a line feed, but is no line then if it
is empty. -/
def lines (cs : List Char) : List (List Char) :=
  let pieces := split (· == '\n') cs
  pieces.dropLast.map withoutReturn ++ pieces.getLast?.toList.filter (!·.isEmpty)

/-- The words of a text, with blanks in between. -/
def words (cs : List Char) : List (List Char) :=
  (split isBlank cs).filter (!·.isEmpty)

end TemplateScan.Text
