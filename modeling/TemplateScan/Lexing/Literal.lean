/-!
# Occurrences of a literal

Two ways to look for a literal text: at one position (`matchLength`), and everywhere in one pass
over the text (`LiteralSearch`).  The pass keeps all positions where the literal has begun and not
yet diverged, so it finds overlapping occurrences and those that begin inside a failed one.
-/

namespace TemplateScan.Lexing

/-- How many characters the two texts have in common at their beginnings, onto those counted
before. -/
def commonLength (count : Nat) : List Char → List Char → Nat
  | a :: as, b :: bs => if a = b then commonLength (count + 1) as bs else count
  | _, _ => count

/-- How many characters of the literal stand ahead. -/
def matchLength (literal ahead : List Char) : Nat :=
  commonLength 0 literal ahead

/-- The number of characters before the first occurrence of the literal, onto those counted
before. -/
def occurrenceFrom? (count : Nat) (literal : List Char) : List Char → Option Nat
  | [] => if literal.isEmpty then some count else none
  | c :: rest =>
    if literal.isPrefixOf (c :: rest) then some count
    else occurrenceFrom? (count + 1) literal rest

/-- The number of characters before the first occurrence of the literal. -/
def occurrence? (literal ahead : List Char) : Option Nat :=
  occurrenceFrom? 0 literal ahead

/-- A search for all occurrences of a literal. -/
structure LiteralSearch where
  literal : List Char
  /-- Where the literal has begun and not yet diverged, in ascending order. -/
  live : List Nat := []
deriving DecidableEq, Repr, Inhabited

namespace LiteralSearch

/-- The search before the first character. -/
def new (literal : List Char) : LiteralSearch :=
  { literal }

/-- Reads the character at a position.  Gives the position where an occurrence that it completes
begins. -/
def feed (m : LiteralSearch) (c : Char) (position : Nat) : Option Nat × LiteralSearch :=
  let kept := m.live.filter fun start => m.literal[position - start]? == some c
  let live := if m.literal.head? = some c then kept ++ [position] else kept
  match live with
  | start :: later =>
    if position + 1 - start = m.literal.length then (some start, { m with live := later })
    else (none, { m with live })
  | [] => (none, { m with live })

/-- Whether the literal has begun at the position, and nowhere before, and not yet diverged. -/
def liveAt (m : LiteralSearch) (position : Nat) : Bool :=
  m.live.head? == some position

/-- The first position but 0 where the literal has begun and not yet diverged. -/
def firstInner? (m : LiteralSearch) : Option Nat :=
  m.live.find? (0 < ·)

end LiteralSearch

end TemplateScan.Lexing
