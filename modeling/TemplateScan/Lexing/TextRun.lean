import TemplateScan.Lexing.Literal
import TemplateScan.Lexing.Reading
import TemplateScan.Mustache.Delimiter

/-!
# Runs of plain text

Plain text goes on until a `<` or a complete delimiter.  One pass finds where: it searches for both
delimiters at once and holds the latest position up to which all is known to be text.  A beginning
of a delimiter may turn out to be text, so the position is only moved on while none is open.  Where
overlapping beginnings hide the end of the text, the run stops early, and another one goes on from
there.
-/

namespace TemplateScan.Lexing

open Mustache

/-- The smaller of two numbers that may be missing. -/
def earliest : Option Nat → Option Nat → Option Nat
  | some a, some b => some (min a b)
  | some a, none => some a
  | none, b => b

/-- A run of text while it is read. -/
structure TextRun where
  opening : LiteralSearch
  closing : LiteralSearch
  /-- The characters read. -/
  read : Nat := 0
  /-- The characters known to be text. -/
  length : Nat := 0
  /-- Where a `<` or a complete delimiter is known to be, if not at the beginning. -/
  boundary : Option Nat := none
deriving Repr, Inhabited

namespace TextRun

/-- A run before its first character. -/
def new (d : Delimiters) : TextRun :=
  { opening := .new d.openingText, closing := .new d.closingText }

/-- A run of the given length, if it has one. -/
def stop (run : TextRun) : Reading :=
  if run.length = 0 then .decline run.read else .ofLength .text run.length run.read

/-- The run with the character at its reading position fed to both searches, and where the
occurrences begin that the character completes. -/
def feed (run : TextRun) (c : Char) : Option Nat × Option Nat × TextRun :=
  let (openingAt, opening) := run.opening.feed c run.read
  let (closingAt, closing) := run.closing.feed c run.read
  (openingAt, closingAt, { run with opening, closing })

/-- The run with the boundaries that the character at its reading position reveals. -/
def reveal (run : TextRun) (c : Char) (openingAt closingAt : Option Nat) : TextRun :=
  { run with
    boundary := earliest (earliest (earliest run.boundary openingAt) closingAt)
      (if c = '<' then some run.read else none) }

/-- The first position but the beginning where a boundary is, or may be. -/
def pending (run : TextRun) : Option Nat :=
  earliest run.boundary (earliest run.opening.firstInner? run.closing.firstInner?)

/-- The run with all before its reading position taken as text, if no boundary may come before. -/
def settle (run : TextRun) : TextRun :=
  if run.read ≠ 0 && run.pending.all (run.read ≤ ·) then { run with length := run.read } else run

/-- Whether the run ends: its beginning is no delimiter, and a boundary is known or lies where the
text settled behind it cannot be given back. -/
def isOver (run : TextRun) : Bool :=
  !run.opening.liveAt 0 && !run.closing.liveAt 0 &&
    run.pending.any fun position => run.boundary == some position || run.length < position

/-- Reads on to the end of the run.  A delimiter at its beginning is no text: the opening one is a
token of its own if it is admissible. -/
def readOn (openingIsAdmissible : Bool) (run : TextRun) : List Char → Reading
  | [] => if run.boundary.isNone then { run with length := run.read }.stop else run.stop
  | c :: rest =>
    let (openingAt, closingAt, run) := run.feed c
    if openingAt = some 0 && openingIsAdmissible then .take .opening (run.read + 1)
    else if openingAt = some 0 || closingAt = some 0 || (run.read = 0 && c = '<') then
      .decline run.read
    else
      let run := (run.reveal c openingAt closingAt).settle
      if run.isOver then run.stop
      else readOn openingIsAdmissible { run with read := run.read + 1 } rest

end TextRun

/-- The run of plain text ahead. -/
def textRun (d : Delimiters) (openingIsAdmissible : Bool) (ahead : List Char) : Reading :=
  (TextRun.new d).readOn openingIsAdmissible ahead

end TemplateScan.Lexing
