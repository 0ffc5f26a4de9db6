import TemplateScan.Document.Run
import TemplateScan.Snapshot.Buffer
import TemplateScan.Token.Listing

/-!
# Hosts

A host reads a document at byte offsets.  It tells from what is ahead by how many bytes to go on,
looks at the text from there and asks the scanner for tokens.

Each step asks whether it is allowed: a text is cut, and a scan begins, only between two characters,
a token does not end before it begins, a buffer is no larger than a buffer can be, and, where this
is checked, no count goes over the greatest number that it can hold.  A step that is not allowed is
a fault and ends the reading.

The runs of `Document.Run` are the same reading by characters, which leaves no step to be asked for.
-/

namespace TemplateScan.Document

open Text

/-- Why a host cannot go on. -/
inductive Fault where
  /-- A buffer that is larger than a buffer can be. -/
  | capacityOverflow
  /-- A count that goes over the greatest number that it can hold. -/
  | countOverflow
  /-- A scan from an offset that is no character boundary. -/
  | scanInside (offset : Nat)
  /-- A text that is cut at an offset that is no character boundary. -/
  | cutInside (offset : Nat)
  /-- A token that ends before it begins. -/
  | reversedSpan (start stop : Nat)
  /-- A snapshot that does not keep to its buffer. -/
  | snapshot (fault : Snapshot.Fault)
  /-- A loop that goes on without getting closer to its end. -/
  | endless
deriving DecidableEq, Repr

/-- What is said about a fault. -/
def Fault.message : Fault → String
  | capacityOverflow => "capacity overflow"
  | countOverflow => "attempt to add with overflow"
  | scanInside _ => "lexer start must be on a UTF-8 boundary"
  | cutInside offset => "byte index " ++ toString offset ++ " is not a char boundary"
  | reversedSpan _ _ => "span start must be <= end"
  | snapshot _ => "a snapshot does not keep to its buffer"
  | endless => "a loop does not end"

/-- A character boundary of a text. -/
def Boundary (text : String) : Type :=
  { p : Place // p.IsIn text.toList }

namespace Boundary

variable {text : String}

/-- The beginning of a text. -/
def start (text : String) : Boundary text :=
  let chars := text.toList
  ⟨.start chars, Place.isIn_start chars⟩

/-- The boundary at a byte offset of the text, if there is one, looked up from another one. -/
def seek? (near : Boundary text) (offset : Nat) : Option (Boundary text) :=
  match found : near.1.seek? text.toList offset with
  | some p => some ⟨p, near.2.seek? found⟩
  | none => none

end Boundary

/-- A host over a text. -/
structure Host (text : String) where
  /-- The byte offset up to which the text has been read. -/
  pos : Nat
  /-- A boundary from which this offset is looked up. -/
  near : Boundary text
  scanner : Scanner
  /-- Whether the state goes through a snapshot before every scan. -/
  checkpoint : Bool
  /-- Whether it is checked that no count goes over. -/
  checked : Bool
  /-- The buffer for the snapshots. -/
  buffer : Array UInt8 := #[]
  /-- The tokens found, the latest first. -/
  tokens : List Token := []
  /-- The issues found, the latest first. -/
  issues : List Issue := []
  /-- What happened, the latest first. -/
  trace : List Event := []

/-- The characters of a text from a byte offset on. -/
def sliceFrom (chars : List Char) (offset : Nat) : Except Fault (List Char) :=
  match Place.at? chars offset with
  | some p => .ok p.ahead
  | none => .error (.cutInside offset)

/-- Where a byte first occurs among those of some characters. -/
def byteIndex? (byte : UInt8) (chars : List Char) : Option Nat :=
  (Utf8.encode chars).idxOf? byte

/-- The byte at which a text first occurs among some characters. -/
def findText? (searched chars : List Char) : Option Nat :=
  (Lexing.occurrence? searched chars).map fun n => Utf8.byteLength (chars.take n)

/-- The largest number of bytes that a buffer can have, the largest 64-bit number with a sign. -/
def maxBufferBytes : Nat := 0x7fffffffffffffff

/-- The buffer cut to a size, or filled up to it with zeros. -/
def resize (buffer : Array UInt8) (size : Nat) : Except Fault (Array UInt8) :=
  if maxBufferBytes < size then .error .capacityOverflow
  else if size < buffer.size then .ok (buffer.extract 0 size)
  else .ok (buffer ++ Array.replicate (size - buffer.size) 0)

/-- The first bytes of a buffer. -/
def firstBytes (buffer : Array UInt8) (length : Nat) : Except Fault (List UInt8) :=
  if length ≤ buffer.size then .ok (buffer.toList.take length)
  else .error (.snapshot (.outOfRange length buffer.size))

/-- A stretch of a text, which does not end before it begins. -/
def newSpan (start stop : Nat) : Except Fault Span :=
  if start ≤ stop then .ok ⟨start, stop⟩ else .error (.reversedSpan start stop)

/-- Repeats a step as long as it goes on (`inr`).  Going on without getting closer to the end, as
`left` measures it, is a fault. -/
def repeatStep {σ ρ : Type} (left : σ → Nat) (step : σ → Except Fault (ρ ⊕ σ)) (s : σ) :
    Except Fault ρ :=
  iterate left
    (fun s => match step s with
      | .error fault => .inl (.error fault)
      | .ok (.inl result) => .inl (.ok result)
      | .ok (.inr next) => .inr next)
    (fun _ => .error .endless) s

namespace Host

variable {text : String}

/-- A host that begins. -/
def start (scanner : Scanner) (checkpoint checked : Bool) (text : String) : Host text :=
  { pos := 0, near := .start text, scanner, checkpoint, checked }

/-- The bytes that are still ahead. -/
def remaining (h : Host text) : Nat :=
  text.utf8ByteSize - h.pos

/-! ## Looking ahead -/

/-- The boundary that the host is at, where the text is cut. -/
def here (h : Host text) : Except Fault (Boundary text) :=
  match h.near.seek? h.pos with
  | some p => .ok p
  | none => .error (.cutInside h.pos)

/-- The characters ahead. -/
def ahead (h : Host text) : Except Fault (List Char) := do
  let here ← h.here
  return here.1.ahead

/-- The character ahead. -/
def next? (h : Host text) : Except Fault (Option Char) := do
  let ahead ← h.ahead
  return ahead.head?

/-! ## Moving on -/

/-- The host some bytes on. -/
def goOn (h : Host text) (bytes : Nat) : Host text :=
  { h with pos := h.pos + bytes }

/-- The host at the end of the text. -/
def toEnd (h : Host text) : Host text :=
  { h with pos := text.utf8ByteSize }

/-- The host behind the character ahead. -/
def bump (h : Host text) : Except Fault (Host text) := do
  match ← h.next? with
  | some c => return h.goOn c.utf8Size
  | none => return h

/-- The host behind the longest run of characters of a class, and the bytes of these. -/
def takeWhile (h : Host text) (inClass : Char → Bool) : Except Fault (Nat × Host text) := do
  let here ← h.here
  let bytes := Utf8.byteLength (here.1.ahead.takeWhile inClass)
  return (bytes, { h.goOn bytes with near := here })

/-- The host behind the blanks ahead. -/
def skipBlanks (h : Host text) : Except Fault (Host text) := do
  let (_, h) ← h.takeWhile isBlank
  return h

/-! ## Events, issues and tokens -/

/-- Adds what happened, given in order. -/
def log (h : Host text) (events : List Event) : Host text :=
  { h with trace := events.reverse ++ h.trace }

/-- Notes an issue where the host is. -/
def raise (h : Host text) (cause : Cause) : Host text :=
  let issue : Issue := ⟨cause, h.pos⟩
  { h with issues := issue :: h.issues }.log [.issueFound issue]

/-- Puts the state through a snapshot of the full capacity. -/
def roundTrip (h : Host text) : Except Fault (Host text) := do
  let capacity := h.scanner.config.capacity
  let buffer ← resize h.buffer capacity
  let written ← (Snapshot.write capacity buffer (.ofState h.scanner.state)).mapError .snapshot
  let saving := if written.snapshot.isLossless then [] else [Event.truncated written.snapshot]
  let bytes ← firstBytes written.buffer written.length
  let (scanner, restoring) := h.scanner.restore bytes
  return { h with buffer := written.buffer, scanner }.log (saving ++ restoring)

/-- The host as the next scan meets it. -/
def beforeScan (h : Host text) : Except Fault (Host text) :=
  if h.checkpoint then h.roundTrip else return h

/-- The boundary from which a scan begins. -/
def scanStart (h : Host text) : Except Fault (Boundary text) :=
  match h.near.seek? h.pos with
  | some p => .ok p
  | none => .error (.scanInside h.pos)

/-- The host with what a scan from a boundary has done to the scanner. -/
def afterScan (h : Host text) (entry : Boundary text) (scan : Scan) : Except Fault (Host text) :=
  if h.checked && scan.reading.overflowed then .error .countOverflow
  else .ok ({ h with near := entry, scanner := scan.after }.log scan.events)

/-- The host behind the token that a scan has found, if any. -/
def behindToken (h : Host text) (scan : Scan) : Except Fault (Option TokenKind × Host text) := do
  match scan.kind? with
  | none => return (none, h)
  | some kind =>
    let span ← newSpan scan.cursor.first.offset scan.cursor.last.offset
    return (some kind, { h with tokens := ⟨kind, span⟩ :: h.tokens, pos := span.stop })

/-- Scans for a token of an admissible kind and moves behind it. -/
def scan (h : Host text) (valid : TokenSet) : Except Fault (Option TokenKind × Host text) := do
  let h ← h.beforeScan
  let entry ← h.scanStart
  let scan := h.scanner.scan valid entry.1
  let h ← h.afterScan entry scan
  h.behindToken scan

/-- Scans for a token and notes an issue if none is found. -/
def expect (h : Host text) (valid : TokenSet) (cause : Cause) : Except Fault (Host text) := do
  match ← h.scan valid with
  | (some _, h) => return h
  | (none, h) => return h.raise cause

end Host

end TemplateScan.Document
