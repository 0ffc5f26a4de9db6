import TemplateScan.Snapshot.Encoding
import TemplateScan.Text.Place

/-!
# Writing a snapshot into a buffer

The writer brings a snapshot into a buffer that it is given, at a position that goes on from the
beginning.  The header of a nesting tells how many entries follow, so room is left for it and it is
filled in behind them.

Each step asks whether it is allowed: bytes must lie before the limit, a number must fit the bytes
it is written in, nothing more is taken away than there is, and a text is cut only between two
characters.  A step that is not allowed is a fault.
-/

namespace TemplateScan.Snapshot

open Text Markup Mustache

/-- A step that the writer is not allowed to take. -/
inductive Fault where
  /-- Bytes up to position `stop` in a buffer of which only those before `limit` may be written. -/
  | outOfRange (stop limit : Nat)
  /-- A number that does not fit the bytes that it is to be written in. -/
  | tooLarge (number : Nat)
  /-- Taking more away than there is. -/
  | underflow (number taken : Nat)
  /-- Cutting a text inside a character or behind its end. -/
  | noBoundary (offset : Nat)
deriving DecidableEq, Repr

/-! ## Contents -/

/-- An entry of a snapshot: the byte of its kind, if it has one, and its name, if it has one. -/
structure Entry (α : Type) where
  kind? : Option UInt8
  name? : Option α
deriving DecidableEq, Repr

/-- What the writer sees of a state: entries for the tags and the sections, the outermost first, and
the texts of the delimiters that were set.  It is not asked whether a state consists of this: a tag
may be stored under the byte of the custom ones and have no name, and a delimiter may be set to no
text. -/
structure Contents where
  tags : List (Entry String)
  sections : List (Entry String)
  opening : Option String
  closing : Option String
  previousClosing : Option String
deriving DecidableEq, Repr

/-- A tag has the byte of its kind, and a name if it is a custom one. -/
def Entry.ofTag (tag : Tag) : Entry String where
  kind? := some tag.byte
  name? := tag.customName?

/-- A section has a name only. -/
def Entry.ofSection (name : String) : Entry String where
  kind? := none
  name? := some name

/-- The text of a delimiter that was set. -/
def setText? : Delimiter → Option String
  | .builtin => none
  | .custom text _ => some text

/-- What a state consists of. -/
def Contents.ofState (s : ScanState) : Contents where
  tags := s.tags.toList.map .ofTag
  sections := s.sections.toList.map .ofSection
  opening := setText? s.delimiters.opening
  closing := setText? s.delimiters.closing
  previousClosing := setText? s.delimiters.previousClosing

/-- The texts of the delimiters, empty where none was set. -/
def Contents.texts (c : Contents) : List String :=
  [c.opening.getD "", c.closing.getD "", c.previousClosing.getD ""]

/-! ## Numbers and names -/

/-- Takes one number from another. -/
def takeAway (number taken : Nat) : Except Fault Nat :=
  if taken ≤ number then .ok (number - taken) else .error (.underflow number taken)

/-- A number in one byte. -/
def byteOf (number : Nat) : Except Fault UInt8 :=
  if number < 256 then .ok (.ofNat number) else .error (.tooLarge number)

/-- A number in two bytes. -/
def twoBytesOf (number : Nat) : Except Fault (List UInt8) :=
  if number < 65536 then .ok (numberBytes number) else .error (.tooLarge number)

/-- The last character boundary of a text that is not behind the given offset. -/
def boundaryUpTo (text : List Char) : Nat → Except Fault Nat
  | 0 => if (Place.at? text 0).isSome then .ok 0 else .error (.underflow 0 1)
  | offset + 1 =>
    if (Place.at? text (offset + 1)).isSome then .ok (offset + 1) else boundaryUpTo text offset

/-- The characters of a text before a character boundary. -/
def cutAt (text : List Char) (offset : Nat) : Except Fault (List Char) :=
  match Place.at? text offset with
  | some p => .ok (text.take (text.length - p.ahead.length))
  | none => .error (.noBoundary offset)

/-- The part of a name that a snapshot holds, cut at the last character boundary that allows it. -/
def clipAtBoundary (name : String) : Except Fault (List Char) :=
  if Utf8.byteLength name.toList ≤ maxNameBytes then .ok name.toList
  else do
    let offset ← boundaryUpTo name.toList maxNameBytes
    cutAt name.toList offset

namespace Entry

/-- The entry with its name cut. -/
def clip (e : Entry String) : Except Fault (Entry (List Char)) :=
  match e.name? with
  | none => .ok { kind? := e.kind?, name? := none }
  | some name => do
    let text ← clipAtBoundary name
    return { kind? := e.kind?, name? := some text }

/-- The bytes that an entry takes. -/
def size (e : Entry (List Char)) : Nat :=
  (if e.kind?.isSome then 1 else 0) + e.name?.elim 0 (1 + Utf8.byteLength ·)

end Entry

/-! ## The writer -/

/-- The buffer with some bytes of it replaced, from a position on. -/
def overwrite (buffer : Array UInt8) (position : Nat) : List UInt8 → Array UInt8
  | [] => buffer
  | byte :: bytes => overwrite (buffer.setIfInBounds position byte) (position + 1) bytes

theorem size_overwrite (buffer : Array UInt8) (position : Nat) (bytes : List UInt8) :
    (overwrite buffer position bytes).size = buffer.size := by
  induction bytes generalizing buffer position with
  | nil => rfl
  | cons byte bytes ih => rw [overwrite, ih, Array.size_setIfInBounds]

/-- A buffer of which the bytes before a limit may be written, and the position of the next one. -/
structure Writer where
  buffer : Array UInt8
  limit : Nat
  limit_le : limit ≤ buffer.size
  position : Nat

namespace Writer

/-- Replaces the bytes from a position on. -/
def store (w : Writer) (start : Nat) (bytes : List UInt8) : Except Fault Writer :=
  if start + bytes.length ≤ w.limit then
    .ok { w with
      buffer := overwrite w.buffer start bytes
      limit_le := by
        rw [size_overwrite]
        exact w.limit_le }
  else .error (.outOfRange (start + bytes.length) w.limit)

/-- Writes bytes and goes on behind them. -/
def put (w : Writer) (bytes : List UInt8) : Except Fault Writer := do
  let stored ← w.store w.position bytes
  return { stored with position := w.position + bytes.length }

/-- Writes a name, its length first. -/
def putName (w : Writer) (name : List Char) : Except Fault Writer := do
  let length ← byteOf (Utf8.byteLength name)
  let w ← w.put [length]
  w.put (Utf8.encode name)

/-- Writes names one after the other. -/
def putNames (w : Writer) : List (List Char) → Except Fault Writer
  | [] => return w
  | name :: later => do
    let w ← w.putName name
    w.putNames later

/-- Writes an entry. -/
def putEntry (w : Writer) (e : Entry (List Char)) : Except Fault Writer := do
  let w ← w.put e.kind?.toList
  match e.name? with
  | none => return w
  | some name => w.putName name

/-- Goes on behind the room for a header. -/
def reserve (w : Writer) : Writer :=
  { w with position := w.position + headerBytes }

/-- Fills in the header at a position: how many entries were written, and how many scopes there
are. -/
def fillHeader (w : Writer) (header emitted size : Nat) : Except Fault Writer := do
  let emitted ← twoBytesOf emitted
  let w ← w.store header emitted
  let size ← twoBytesOf size
  w.store (header + 2) size

end Writer

/-- A writer behind the entries of a nesting, how much they leave of the budget, and how many they
are. -/
structure Filling where
  writer : Writer
  budget : Nat
  emitted : Nat

namespace Writer

/-- Writes entries from the first on until one does not fit into what is left of the budget. -/
def putEntries (w : Writer) (budget emitted : Nat) : List (Entry String) → Except Fault Filling
  | [] => return { writer := w, budget, emitted }
  | entry :: later => do
    let entry ← entry.clip
    if budget < entry.size then return { writer := w, budget, emitted }
    else
      let budget ← takeAway budget entry.size
      let w ← w.putEntry entry
      w.putEntries budget (emitted + 1) later

/-- Writes the header of a nesting and those of its entries that fit into the budget. -/
def putNesting (w : Writer) (budget : Nat) (entries : List (Entry String)) :
    Except Fault Filling := do
  let size := min entries.length maxScopes
  let filling ← w.reserve.putEntries budget 0 (entries.take size)
  let writer ← filling.writer.fillHeader w.position filling.emitted size
  return { filling with writer }

end Writer

/-! ## Snapshots -/

/-- A buffer with a snapshot at its beginning, of so many bytes, and an account of what this leaves
out. -/
structure Written where
  buffer : Array UInt8
  length : Nat
  droppedTags : Nat
  droppedSections : Nat
  delimitersDropped : Bool

/-- The snapshot in the buffer. -/
def Written.snapshot (w : Written) : Encoding where
  bytes := w.buffer.toList.take w.length
  droppedTags := w.droppedTags
  droppedSections := w.droppedSections
  delimitersDropped := w.delimitersDropped

/-- Writes a snapshot in at most `limit` bytes, which have room for the headers. -/
def writeWithin (limit : Nat) (buffer : Array UInt8) (limit_le : limit ≤ buffer.size)
    (c : Contents) : Except Fault Written := do
  let texts ← c.texts.mapM clipAtBoundary
  let textBytes := texts.foldr (fun text bytes => Utf8.byteLength text + bytes) 0
  let delimitersDropped := decide (limit < fixedBytes + textBytes)
  let budget ← takeAway limit (if delimitersDropped then fixedBytes else fixedBytes + textBytes)
  let w : Writer := { buffer, limit, limit_le, position := 0 }
  let tags ← w.putNesting budget c.tags
  let sections ← tags.writer.putNesting tags.budget c.sections
  let w ← sections.writer.putNames (if delimitersDropped then texts.map fun _ => [] else texts)
  let droppedTags ← takeAway c.tags.length tags.emitted
  let droppedSections ← takeAway c.sections.length sections.emitted
  return {
    buffer := w.buffer
    length := w.position
    droppedTags
    droppedSections
    delimitersDropped }

/-- Writes a snapshot into a buffer, of which at most `capacity` bytes are used. -/
def write (capacity : Nat) (buffer : Array UInt8) (c : Contents) : Except Fault Written :=
  if min buffer.size capacity < fixedBytes then
    return {
      buffer
      length := 0
      droppedTags := c.tags.length
      droppedSections := c.sections.length
      delimitersDropped := c.opening.isSome || c.closing.isSome || c.previousClosing.isSome }
  else
    writeWithin (min buffer.size capacity) buffer (Nat.min_le_left _ _) c

end TemplateScan.Snapshot
