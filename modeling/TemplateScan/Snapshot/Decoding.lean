import TemplateScan.Snapshot.Format

/-!
# Restoring snapshots

Every sequence of bytes makes a state.  From where it cannot be read on, nothing is read any more:
scopes that are announced but not there become placeholders, and delimiters that are not there the
built-in ones.
-/

namespace TemplateScan.Snapshot

open Markup Mustache

/-- A state with a note whether its snapshot could be read to the end. -/
structure Decoding where
  state : ScanState
  /-- Whether the bytes are no complete snapshot. -/
  isCorrupt : Bool
deriving DecidableEq, Inhabited

/-- Reads `n` entries onto those read before, the latest first; the bytes after them, if all could
be read. -/
def takeEntries {α : Type} (takeOne? : List UInt8 → Option (α × List UInt8)) :
    Nat → List α → List UInt8 → List α × Option (List UInt8)
  | 0, before, bytes => (before, some bytes)
  | n + 1, before, bytes =>
    match takeOne? bytes with
    | none => (before, none)
    | some (entry, rest) => takeEntries takeOne? n (entry :: before) rest

/-- The nesting of the scopes read, the latest first, brought to the announced size by
placeholders. -/
def padded {α : Type} (placeholder : α) (size : Nat) (scopes : List α) : Nesting α :=
  ⟨List.replicate (size - scopes.length) placeholder ++ scopes⟩

/-- Reads a nesting, unless the bytes before it could not be read. -/
def takeNesting {α : Type} (placeholder : α) (takeOne? : List UInt8 → Option (α × List UInt8)) :
    Option (List UInt8) → Nesting α × Option (List UInt8)
  | none => (.empty, none)
  | some bytes =>
    match takeNumber? bytes with
    | none => (.empty, none)
    | some (emitted, bytes) =>
      match takeNumber? bytes with
      | none => (padded placeholder emitted [], none)
      | some (size, bytes) =>
        let (scopes, rest) := takeEntries takeOne? emitted [] bytes
        (padded placeholder (max size emitted) scopes, rest)

/-- Reads a delimiter, unless the bytes before it could not be read. -/
def takeDelimiter : Option (List UInt8) → Delimiter × Option (List UInt8)
  | none => (.builtin, none)
  | some bytes =>
    match takeName? bytes with
    | none => (.builtin, none)
    | some (text, rest) => (.ofText text, some rest)

/-- The state that some bytes tell of, of which at most `capacity` are read.  No bytes tell of a
fresh state. -/
def decode (capacity : Nat) (bytes : List UInt8) : Decoding :=
  if bytes.isEmpty then { state := .fresh, isCorrupt := false }
  else
    let (tags, rest) := takeNesting .placeholder takeTag? (some (bytes.take capacity))
    let (sections, rest) := takeNesting "" takeName? rest
    let (opening, rest) := takeDelimiter rest
    let (closing, rest) := takeDelimiter rest
    let (previousClosing, rest) := takeDelimiter rest
    { state := { tags, sections, delimiters := { opening, closing, previousClosing } }
      isCorrupt := rest.isNone }

end TemplateScan.Snapshot
