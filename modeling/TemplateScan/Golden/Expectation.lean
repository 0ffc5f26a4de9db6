import TemplateScan.Text.Pieces
import TemplateScan.Text.Quoted

/-!
# Expected listings

An expectation file holds a token listing and headers.  A line that begins with `#` is a header
`# key: value`, or nothing if it holds only the `#`; every other line that is not blank is a line of
the listing.  Keys are compared without regard to the case of ASCII letters, and one of them must
name the format.
-/

namespace TemplateScan.Golden

open Text

/-- What is wrong with an expectation file. -/
inductive ExpectationError where
  | invalidHeader (line : String)
  | duplicateHeader (key : String)
  | missingFormat
  | unsupportedFormat (found : String)
deriving DecidableEq, Repr

/-- The format of expectation files. -/
def expectationFormat : String := "scanner-token-v1"

/-- What is said about two texts that should be equal. -/
def unequalMessage (what found wanted : String) : String :=
  "assertion `left == right` failed: " ++ what ++ "\n  left: " ++ shown found ++
    "\n right: " ++ shown wanted

/-- What is said about an expectation file. -/
def ExpectationError.message (file : String) : ExpectationError → String
  | invalidHeader line => "invalid header in " ++ file ++ ": '" ++ line ++ "'"
  | duplicateHeader key => "duplicate header '" ++ key ++ "' in " ++ file
  | missingFormat => "missing format header in " ++ file
  | unsupportedFormat found =>
    unequalMessage ("unsupported format in " ++ file) found expectationFormat

/-- An expected listing with its headers. -/
structure Expectation where
  /-- The lines of the listing. -/
  lines : List String := []
  /-- The headers, each key once and in lower case. -/
  headers : List (String × String) := []
deriving DecidableEq, Repr, Inhabited

/-! ## Reading -/

namespace Expectation

/-- The value of a header, by its key in lower case. -/
def header? (e : Expectation) (key : String) : Option String :=
  e.headers.lookup key

/-- The words in the value of a header. -/
def words? (e : Expectation) (key : String) : Option (List String) :=
  (e.header? key).map fun value => (words value.toList).map String.ofList

/-- Adds a header. -/
def addHeader (e : Expectation) (line header : List Char) : Except ExpectationError Expectation :=
  let key := header.takeWhile (· != ':')
  match header.drop key.length with
  | [] => .error (.invalidHeader (String.ofList line))
  | _ :: value =>
    let key := String.ofList ((trim key).map Char.toLower)
    if (e.header? key).isSome then .error (.duplicateHeader key)
    else .ok { e with headers := (key, String.ofList (trim value)) :: e.headers }

/-- Adds a line of the file, without the blanks at its end.  The lines of the listing come latest
first. -/
def addLine (e : Expectation) (line : List Char) : Except ExpectationError Expectation :=
  match line with
  | [] => .ok e
  | '#' :: rest =>
    let header := trim rest
    if header.isEmpty then .ok e else e.addHeader line header
  | _ => .ok { e with lines := String.ofList line :: e.lines }

/-- Adds lines of the file. -/
def addLines (e : Expectation) : List (List Char) → Except ExpectationError Expectation
  | [] => .ok e
  | line :: later =>
    match e.addLine (trimEnd line) with
    | .error err => .error err
    | .ok e => e.addLines later

/-- Reads an expectation file. -/
def parse (content : String) : Except ExpectationError Expectation :=
  match addLines {} (Text.lines content.toList) with
  | .error err => .error err
  | .ok e =>
    match e.header? "format" with
    | none => .error .missingFormat
    | some found =>
      if found = expectationFormat then .ok { e with lines := e.lines.reverse }
      else .error (.unsupportedFormat found)

end Expectation

end TemplateScan.Golden
