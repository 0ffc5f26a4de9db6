import TemplateScan.Snapshot.Format

/-!
# Taking snapshots

Headers and delimiters come first in the account: what they leave of the limit is the budget of the
entries.  The entries of each nesting are written from the outermost on until one does not fit.
Without room for the delimiters all three are left out, and without room for the headers there is no
snapshot at all.
-/

namespace TemplateScan.Snapshot

open Text Markup Mustache

/-- A snapshot with an account of what it leaves out. -/
structure Encoding where
  bytes : List UInt8
  droppedTags : Nat
  droppedSections : Nat
  delimitersDropped : Bool
deriving DecidableEq, Repr, Inhabited

namespace Encoding

/-- Whether nothing is left out. -/
def isLossless (e : Encoding) : Bool :=
  e.droppedTags == 0 && e.droppedSections == 0 && !e.delimitersDropped

end Encoding

/-- The entries of the scopes, from the first on, that fit into the budget together, and what they
leave of it.  The entries taken before are given latest first. -/
def fill {α : Type} (entryOf : α → List UInt8) (taken : List (List UInt8)) (budget : Nat) :
    List α → List (List UInt8) × Nat
  | [] => (taken.reverse, budget)
  | scope :: later =>
    let entry := entryOf scope
    if entry.length ≤ budget then fill entryOf (entry :: taken) (budget - entry.length) later
    else (taken.reverse, budget)

/-- The entries of a nesting that fit into the budget, of at most as many scopes as a snapshot tells
of. -/
def fitting {α : Type} (entryOf : α → List UInt8) (budget : Nat) (scopes : Nesting α) :
    List (List UInt8) × Nat :=
  fill entryOf [] budget (scopes.toList.take maxScopes)

/-- The bytes of a nesting of which the given entries are written. -/
def nestingBytes (size : Nat) (entries : List (List UInt8)) : List UInt8 :=
  numberBytes entries.length ++ numberBytes (min size maxScopes) ++ entries.flatten

/-- The delimiters that were set, as a snapshot holds them. -/
def delimiterTexts (d : Delimiters) : List String :=
  [d.opening.customText, d.closing.customText, d.previousClosing.customText]

/-- The bytes of the delimiters without their lengths. -/
def delimiterLength (d : Delimiters) : Nat :=
  (delimiterTexts d).foldr (fun text bytes => Utf8.byteLength (clip text) + bytes) 0

/-- The bytes of the delimiters. -/
def delimiterBytes (d : Delimiters) : List UInt8 :=
  (delimiterTexts d).flatMap nameBytes

/-- The snapshot of a state in at most `limit` bytes, which have room for the headers. -/
def encodeWithin (limit : Nat) (s : ScanState) : Encoding :=
  let delimitersDropped := limit < fixedBytes + delimiterLength s.delimiters
  let delimiters := if delimitersDropped then {} else s.delimiters
  let (tags, left) := fitting tagBytes (limit - (fixedBytes + delimiterLength delimiters)) s.tags
  let (sections, _) := fitting nameBytes left s.sections
  { bytes := nestingBytes s.tags.size tags ++ nestingBytes s.sections.size sections ++
      delimiterBytes delimiters
    droppedTags := s.tags.size - tags.length
    droppedSections := s.sections.size - sections.length
    delimitersDropped }

/-- The snapshot of a state in a buffer of `room` bytes, of which at most `capacity` are used. -/
def encode (capacity room : Nat) (s : ScanState) : Encoding :=
  let limit := min room capacity
  if limit < fixedBytes then
    { bytes := []
      droppedTags := s.tags.size
      droppedSections := s.sections.size
      delimitersDropped := s.delimiters != {} }
  else
    encodeWithin limit s

end TemplateScan.Snapshot
