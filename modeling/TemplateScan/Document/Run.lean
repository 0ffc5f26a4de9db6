import TemplateScan.Iteration
import TemplateScan.Scanner
import TemplateScan.Text.Blank

/-!
# Runs over a document

A run reads a document from its beginning to its end.  It asks the scanner for the tokens that only
the scanner can tell and reads the punctuation in between by itself; where the text does not go on
as the grammar demands, it notes an issue and goes on.  A scan that finds nothing leaves the run
where it is.

A run is at a place of the text and moves by characters, so there is nothing that it may not do.
The program reads by bytes, with steps that may fail: that is a `Host`, which agrees with a run
unless it fails (`readWith_agrees`).
-/

namespace TemplateScan.Document

open Text

/-- How far a document has been read and what came of it. -/
structure Run where
  /-- The number of bytes of the text. -/
  size : Nat
  /-- Whether the state goes through a snapshot before every scan. -/
  checkpoint : Bool
  place : Place
  scanner : Scanner
  /-- Whether a count went over the greatest number that it can hold, in one of the scans. -/
  overflowed : Bool := false
  /-- The tokens found, the latest first. -/
  tokens : List Token := []
  /-- The issues found, the latest first. -/
  issues : List Issue := []
  /-- What happened, the latest first. -/
  trace : List Event := []

namespace Run

/-- A run that begins. -/
def start (scanner : Scanner) (checkpoint : Bool) (text : String) : Run :=
  { size := text.utf8ByteSize, checkpoint, place := .start text.toList, scanner }

/-- The bytes that are still ahead. -/
def remaining (r : Run) : Nat :=
  r.size - r.place.offset

/-- The characters ahead. -/
def ahead (r : Run) : List Char :=
  r.place.ahead

/-- The character ahead. -/
def next? (r : Run) : Option Char :=
  r.place.next?

/-! ## Moving on -/

/-- The run at another place. -/
def moveTo (r : Run) (p : Place) : Run :=
  { r with place := p }

/-- The run `n` characters on. -/
def advance (r : Run) (n : Nat) : Run :=
  r.moveTo (r.place.advance n)

/-- The run behind the longest run of characters of a class. -/
def skipWhile (r : Run) (inClass : Char → Bool) : Run :=
  r.moveTo (r.place.skipWhile inClass)

/-- The run behind the blanks ahead. -/
def skipBlanks (r : Run) : Run :=
  r.skipWhile isBlank

/-- The run at the end of the text. -/
def toEnd (r : Run) : Run :=
  r.moveTo ⟨r.size, []⟩

/-! ## Events, issues and tokens -/

/-- Adds what happened, given in order. -/
def log (r : Run) (events : List Event) : Run :=
  { r with trace := events.reverse ++ r.trace }

/-- Notes an issue where the run is. -/
def raise (r : Run) (cause : Cause) : Run :=
  let issue : Issue := ⟨cause, r.place.offset⟩
  { r with issues := issue :: r.issues }.log [.issueFound issue]

/-- Puts the state through a snapshot of the full capacity. -/
def roundTrip (r : Run) : Run :=
  let (snapshot, saving) := r.scanner.save r.scanner.config.capacity
  let (scanner, restoring) := r.scanner.restore snapshot.bytes
  { r with scanner }.log (saving ++ restoring)

/-- The run as the next scan meets it. -/
def beforeScan (r : Run) : Run :=
  if r.checkpoint then r.roundTrip else r

theorem beforeScan_eq_self {r : Run} (plain : r.checkpoint = false) : r.beforeScan = r := by
  simp [beforeScan, plain]

/-- The run with what a scan has done to the scanner. -/
def afterScan (r : Run) (scan : Scan) : Run :=
  { r with
    scanner := scan.after
    overflowed := r.overflowed || scan.reading.overflowed }.log scan.events

/-- Scans for a token of an admissible kind and moves behind it. -/
def scan (r : Run) (valid : TokenSet) : Option TokenKind × Run :=
  let r := r.beforeScan
  let scan := r.scanner.scan valid r.place
  let r := r.afterScan scan
  match scan.kind? with
  | none => (none, r)
  | some kind =>
    let cursor := scan.cursor
    (some kind, { r with tokens := ⟨kind, cursor.span⟩ :: r.tokens, place := cursor.last })

/-- Scans for a token and notes an issue if none is found. -/
def expect (r : Run) (valid : TokenSet) (cause : Cause) : Run :=
  match r.scan valid with
  | (some _, r) => r
  | (none, r) => r.raise cause

end Run

end TemplateScan.Document
