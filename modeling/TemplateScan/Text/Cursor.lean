import TemplateScan.Text.Place

/-!
# Cursors

A cursor reads a text forward, one character at a time, and delimits one token on its way.  The
token begins behind what was skipped at first and ends at the last mark, or where the cursor stands
if it never set one; what was read past the mark is handed back.
-/

namespace TemplateScan.Text

/-- A stretch of a text, by byte offsets. -/
structure Span where
  start : Nat
  stop : Nat
deriving DecidableEq, Repr, Inhabited

namespace Span

/-- The number of bytes of the stretch. -/
def length (s : Span) : Nat :=
  s.stop - s.start

/-- Whether the stretch holds nothing. -/
def isEmpty (s : Span) : Bool :=
  s.start == s.stop

end Span

/-- A reading position that delimits a token. -/
structure Cursor where
  /-- Where the cursor reads. -/
  here : Place
  /-- Where the token begins. -/
  first : Place
  /-- Where the token was last marked to end. -/
  mark : Option Place
  /-- Whether a character of the token has been read, so that its beginning is settled. -/
  settled : Bool
deriving DecidableEq, Repr, Inhabited

namespace Cursor

/-- A cursor that has read nothing yet. -/
def new (p : Place) : Cursor :=
  ⟨p, p, none, false⟩

/-- Takes the character ahead into the token. -/
def advance (c : Cursor) : Cursor :=
  { c with here := c.here.step, settled := true }

/-- Passes over the character ahead: the token begins behind it unless its beginning is settled. -/
def skip (c : Cursor) : Cursor :=
  { c with here := c.here.step, first := if c.settled then c.first else c.here.step }

/-- Marks the token to end where the cursor stands. -/
def markEnd (c : Cursor) : Cursor :=
  { c with mark := some c.here }

/-- The place where the token ends. -/
def last (c : Cursor) : Place :=
  let ending := c.mark.getD c.here
  if ending.offset < c.first.offset then c.first else ending

/-- The stretch of the token. -/
def span (c : Cursor) : Span :=
  ⟨c.first.offset, c.last.offset⟩

/-- Takes `n` characters into the token. -/
def advanceBy (c : Cursor) : Nat → Cursor
  | 0 => c
  | n + 1 => c.advance.advanceBy n

/-- Passes over `n` characters. -/
def skipBy (c : Cursor) : Nat → Cursor
  | 0 => c
  | n + 1 => c.skip.skipBy n

/-- Skipping at first moves the beginning of the token along. -/
theorem skipBy_new (p : Place) (n : Nat) : (new p).skipBy n = new (p.advance n) := by
  induction n generalizing p with
  | zero => rfl
  | succ n ih => exact ih p.step

/-- Taking characters into the token moves only the reading position. -/
theorem advanceBy_here (c : Cursor) (n : Nat) : (c.advanceBy n).here = c.here.advance n := by
  induction n generalizing c with
  | zero => rfl
  | succ n ih => exact ih c.advance

theorem advanceBy_first (c : Cursor) (n : Nat) : (c.advanceBy n).first = c.first := by
  induction n generalizing c with
  | zero => rfl
  | succ n ih => exact ih c.advance

theorem advanceBy_mark (c : Cursor) (n : Nat) : (c.advanceBy n).mark = c.mark := by
  induction n generalizing c with
  | zero => rfl
  | succ n ih => exact ih c.advance

end Cursor

end TemplateScan.Text
