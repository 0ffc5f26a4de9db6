import TemplateScan.Document.Run
import TemplateScan.Text.Alphanumeric

/-!
# Mustache tags

A mustache tag is read from behind its opening delimiter.  The character ahead tells its sort: a
section opens (`#`, `^`) or closes (`/`), a comment (`!`), a directive (`=`), an unescaped value in
braces or behind `&`, a partial (`>`), the current value (`.`) or the path of a value.
-/

namespace TemplateScan.Document

open Text

namespace Run

/-- Reads the closing delimiter. -/
def closingDelimiter (r : Run) : Run :=
  r.expect (.singleton .mustacheEndDelimiter) .missingEndDelimiter

/-! ## Paths -/

/-- Reads one part of a path and the dot behind it.  The path goes on (`inr`) behind a dot. -/
def pathStep (r : Run) : Run ⊕ Run :=
  match r.scan (.singleton .mustacheIdentifier) with
  | (none, r) => .inl (r.raise .missingIdentifier)
  | (some _, r) => if r.next? = some '.' then .inr (r.advance 1) else .inl r

/-- Reads a path, parts with dots in between. -/
def path (r : Run) : Run :=
  iterate remaining pathStep id r

/-! ## Directives -/

/-- Goes behind the next closing delimiter, or to the end of the text. -/
def skipPastClosing (r : Run) : Run :=
  let closing := r.scanner.state.delimiters.closingText
  match Lexing.occurrence? closing r.ahead with
  | some n => r.advance (n + closing.length)
  | none => r.toEnd

/-- Gives a directive up: the document goes on behind the closing delimiter. -/
def rejectDirective (r : Run) : Run :=
  (r.raise .rejectedDelimiterChange).skipPastClosing

/-- Reads the end of a directive: `=` and the closing delimiter in force before it. -/
def directiveEnd (r : Run) : Run :=
  (if r.next? = some '=' then r.advance 1 else r.raise .unexpectedCharacter).expect
    (.singleton .mustacheOldEndDelimiter) .missingEndDelimiter

/-- Reads a directive from behind its first `=`. -/
def directive (r : Run) : Run :=
  match r.scan (.singleton .mustacheSetStartDelimiter) with
  | (none, r) => r.rejectDirective
  | (some _, r) =>
    match r.scan (.singleton .mustacheSetEndDelimiter) with
    | (none, r) => r.rejectDirective
    | (some _, r) => r.directiveEnd

/-! ## Tags -/

/-- Reads a comment from behind its `!`. -/
def mustacheComment (r : Run) : Run :=
  match r.scan (.singleton .mustacheComment) with
  | (none, r) => (r.raise .missingEndDelimiter).toEnd
  | (some _, r) => r.closingDelimiter

/-- Reads the path of a value in braces, from behind the brace on, and the brace that ends it. -/
def bracedPath (r : Run) : Run :=
  let r := r.path.skipBlanks
  if r.next? = some '}' then r.advance 1 else r

/-- Whether a character is ahead that does not continue a name. -/
def endsName (ahead : List Char) : Bool :=
  ahead.head?.any fun c => !isAlphanumeric c

/-- Reads a mustache tag from the character that tells its sort. -/
def mustacheBody (r : Run) : Run :=
  match r.ahead with
  | '#' :: _ | '^' :: _ =>
    ((r.advance 1).expect (.singleton .mustacheSectionName) .missingSectionName).closingDelimiter
  | '/' :: _ =>
    ((r.advance 1).expect (.ofList [.mustacheEndSectionName, .mustacheErroneousEndSectionName])
      .missingSectionName).closingDelimiter
  | '!' :: _ => (r.advance 1).mustacheComment
  | '=' :: _ => (r.advance 1).directive
  | '{' :: _ => (r.advance 1).bracedPath.closingDelimiter
  | '&' :: _ | '>' :: _ => (r.advance 1).path.closingDelimiter
  | '.' :: rest => (if endsName rest then r.advance 1 else r.path).closingDelimiter
  | _ => r.path.closingDelimiter

/-- Reads a mustache tag from behind its opening delimiter. -/
def mustacheTag (r : Run) : Run :=
  r.skipBlanks.mustacheBody

end Run

end TemplateScan.Document
