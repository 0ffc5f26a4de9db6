import TemplateScan.Text.Cursor
import TemplateScan.Text.Quoted
import TemplateScan.Token.Kind

/-!
# Token listings

A listing has a line for each token: the label of its kind and its text in quotes.  A token without
text has an empty one.

The tokens of a document come in order, so the text of one is looked up from where that of the one
before ended (`Place.seek?`); only a token that lies further back is looked up from the beginning.
-/

namespace TemplateScan

open Text

/-- A token of a text. -/
structure Token where
  kind : TokenKind
  span : Span
deriving DecidableEq, Repr, Inhabited

namespace Text.Place

/-- The place at a byte offset of the text that `p` is a place of, looked for from `p` on if it does
not lie behind. -/
def seek? (p : Place) (text : List Char) (offset : Nat) : Option Place :=
  if p.offset ≤ offset then walk? p.offset p.ahead offset else at? text offset

/-- What is found from a place of the text is one. -/
theorem IsIn.seek? {text : List Char} {p q : Place} {offset : Nat} (h : p.IsIn text)
    (found : p.seek? text offset = some q) : q.IsIn text := by
  unfold Place.seek? at found
  split at found
  · exact h.walk? found
  · exact (at?_eq_some_iff.1 found).1

/-- The characters up to the place with the given offset, put onto those read before, the latest
first. -/
def takeOnto? (before : List Char) (offset : Nat) : List Char → Nat → Option (List Char)
  | ahead, target =>
    if offset = target then some before.reverse
    else if target < offset then none
    else match ahead with
      | [] => none
      | c :: rest => takeOnto? (c :: before) (offset + c.utf8Size) rest target

/-- The characters from the place up to the one with the given offset; `none` if that offset lies
behind, inside a character or beyond the end. -/
def upTo? (p : Place) (offset : Nat) : Option (List Char) :=
  takeOnto? [] p.offset p.ahead offset

end Text.Place

/-- The characters of a stretch of the text; `none` if an end of it is no character boundary of the
text. -/
def Text.Span.textIn? (text : List Char) (s : Span) : Option (List Char) :=
  (Place.at? text s.start).bind (·.upTo? s.stop)

/-- A token whose span is no stretch of the text. -/
structure InvalidSpan where
  token : Token
deriving DecidableEq, Repr

/-- What is said about a token whose span is no stretch of the text. -/
def InvalidSpan.message (e : InvalidSpan) : String :=
  "invalid span for " ++ e.token.kind.label ++ ": " ++ toString e.token.span.start ++ ".." ++
    toString e.token.span.stop

namespace Token

/-- The line of a token that has the given text. -/
def line (kind : TokenKind) (cs : List Char) : String :=
  kind.label ++ " " ++ String.ofList (listed cs)

/-- The lines of the tokens, onto the lines written before, the latest first, looking for the tokens
from `bookmark` on. -/
def linesOnto (text : List Char) (done : List String) (bookmark : Place) :
    List Token → Except InvalidSpan (List String)
  | [] => .ok done.reverse
  | t :: later =>
    match bookmark.seek? text t.span.start with
    | none => .error ⟨t⟩
    | some p =>
      match p.upTo? t.span.stop with
      | none => .error ⟨t⟩
      | some cs => linesOnto text (line t.kind cs :: done) p later

/-- The listing of the tokens of a text, or the first one whose span is no stretch of it. -/
def lines (text : List Char) (tokens : List Token) : Except InvalidSpan (List String) :=
  linesOnto text [] (.start text) tokens

end Token

end TemplateScan
