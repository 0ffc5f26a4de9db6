import TemplateScan.Lexing.Choice
import TemplateScan.Log
import TemplateScan.Snapshot.Decoding
import TemplateScan.Text.Cursor
import TemplateScan.Token.Listing

/-!
# The scanner

A scanner finds tokens at positions of a text, carrying its state from one to the next.  The state
can be put into a snapshot and taken up again from one.
-/

namespace TemplateScan

open Text

/-- How many scans there were, how many found a token and how many did not, and how many elements
ended without an end tag. -/
structure ScanCounts where
  scans : Nat := 0
  tokens : Nat := 0
  declines : Nat := 0
  implicitCloses : Nat := 0
deriving DecidableEq, Repr, Inhabited

/-- The counts after a further scan. -/
def ScanCounts.count (counts : ScanCounts) (kind? : Option TokenKind) : ScanCounts where
  scans := counts.scans + 1
  tokens := if kind?.isSome then counts.tokens + 1 else counts.tokens
  declines := if kind?.isNone then counts.declines + 1 else counts.declines
  implicitCloses :=
    if kind? = some .implicitEndTag then counts.implicitCloses + 1 else counts.implicitCloses

/-- A scanner for templates. -/
structure Scanner where
  config : ScanConfig := {}
  state : ScanState := .fresh
  counts : ScanCounts := {}
deriving DecidableEq, Inhabited

/-- A cursor that has followed a reading from a place on. -/
def Reading.follow (r : Reading) (entry : Place) : Cursor :=
  (((Cursor.new entry).skipBy r.skipped).advanceBy r.length).markEnd.advanceBy r.beyond

namespace Reading

/-- The token begins behind the characters passed over. -/
theorem follow_first (r : Reading) (entry : Place) :
    (r.follow entry).first = entry.advance r.skipped := by
  rw [follow, Cursor.advanceBy_first, Cursor.skipBy_new]
  exact Cursor.advanceBy_first _ _

/-- The token ends behind its characters. -/
theorem follow_last (r : Reading) (entry : Place) :
    (r.follow entry).last = entry.advance (r.skipped + r.length) := by
  have marked : (r.follow entry).mark = some ((entry.advance r.skipped).advance r.length) := by
    rw [follow, Cursor.advanceBy_mark, Cursor.skipBy_new]
    exact congrArg some (Cursor.advanceBy_here _ _)
  rw [Cursor.last, marked, follow_first, Option.getD_some, if_neg, Place.advance_add]
  rw [Place.advance_offset]
  omega

/-- The cursor stands behind all characters read. -/
theorem follow_here (r : Reading) (entry : Place) :
    (r.follow entry).here = entry.advance (r.skipped + r.length + r.beyond) := by
  rw [follow, Cursor.advanceBy_here, Cursor.skipBy_new, Cursor.markEnd, Cursor.advanceBy_here,
    Place.advance_add, Place.advance_add]
  rfl

end Reading

/-- The changes of state that a token brings with it. -/
def Finding.events (before : ScanState) : Finding → List Event
  | startTag tag => [.elementOpened tag]
  | endTag => before.tags.top?.toList.map .elementClosed
  | selfClosing | implicitEnd => before.tags.top?.toList.map .elementEnded
  | sectionStart name => [.sectionOpened name]
  | newOpening spelling => [.openingSet spelling]
  | newClosing spelling => [.closingSet spelling]
  | _ => []

namespace Scanner

/-- A scanner with the given settings at the beginning of a document. -/
def new (config : ScanConfig) : Scanner :=
  { config }

/-- The scanner at the beginning of a document, its counts going on. -/
def reset (s : Scanner) : Scanner :=
  { s with state := .fresh }

end Scanner

/-! ## Scans -/

/-- A scan of a scanner at a place of a text, with what it has read there. -/
structure Scan where
  /-- The scanner before the scan. -/
  before : Scanner
  valid : TokenSet
  entry : Place
  reading : Reading

/-- Looks for a token of an admissible kind at a place. -/
def Scanner.scan (s : Scanner) (valid : TokenSet) (entry : Place) : Scan where
  before := s
  valid := valid
  entry := entry
  reading := Lexing.read s.config s.state valid entry.ahead

namespace Scan

/-- The kind of the token found. -/
def kind? (scan : Scan) : Option TokenKind :=
  scan.reading.finding.kind?

/-- The cursor at the end of the scan.  It delimits the token found. -/
def cursor (scan : Scan) : Cursor :=
  scan.reading.follow scan.entry

/-- The token found. -/
def token? (scan : Scan) : Option Token :=
  scan.kind?.map (⟨·, scan.cursor.span⟩)

/-- The scanner after the scan. -/
def after (scan : Scan) : Scanner :=
  { scan.before with
    state := scan.reading.finding.apply scan.before.state
    counts := scan.before.counts.count scan.kind? }

/-- What has happened, in order. -/
def events (scan : Scan) : List Event :=
  scan.reading.finding.events scan.before.state ++
    [.scanned scan.before.state scan.valid scan.kind?]

end Scan

/-! ## Snapshots -/

namespace Scanner

/-- A snapshot of the state in a buffer of `room` bytes, and what happened. -/
def save (s : Scanner) (room : Nat) : Snapshot.Encoding × List Event :=
  let snapshot := Snapshot.encode s.config.capacity room s.state
  (snapshot, if snapshot.isLossless then [] else [.truncated snapshot])

/-- The scanner with the state of a snapshot, and what happened. -/
def restore (s : Scanner) (bytes : List UInt8) : Scanner × List Event :=
  let restored := Snapshot.decode s.config.capacity bytes
  ({ s with state := restored.state }, if restored.isCorrupt then [.corrupt bytes.length] else [])

end Scanner

end TemplateScan
