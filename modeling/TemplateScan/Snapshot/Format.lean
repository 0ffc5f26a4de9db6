import TemplateScan.ScanState
import TemplateScan.Text.Utf8

/-!
# The format of snapshots

A snapshot holds a state in a limited number of bytes.  In order, with numbers of two bytes in
little-endian order:

* the tags: how many entries follow, how many elements are open, then the entries, the outermost
  first;
* the sections in the same way;
* the opening, the closing and the previous closing delimiter, empty where the built-in one is in
  force.

A tag is its byte, and a custom one its name after that.  Names and delimiters are their length in
one byte and their UTF-8 bytes, cut to what fits such a length.
-/

namespace TemplateScan.Snapshot

open Text Markup

/-- The most scopes of one nesting that a snapshot tells of. -/
def maxScopes : Nat := 65535

/-- The most bytes of one name. -/
def maxNameBytes : Nat := 255

/-- The bytes of the header of a nesting, two numbers. -/
def headerBytes : Nat := 4

/-- The bytes that every snapshot takes: two pairs of numbers and the lengths of three
delimiters. -/
def fixedBytes : Nat := 11

/-- The longest beginning of a text that has at most the given number of bytes. -/
def clipTo (room : Nat) : List Char → List Char
  | [] => []
  | c :: rest => if c.utf8Size ≤ room then c :: clipTo (room - c.utf8Size) rest else []

/-- The part of a name that a snapshot holds. -/
def clip (name : String) : List Char :=
  clipTo maxNameBytes name.toList

/-! ## Writing the parts -/

/-- A number below 65536. -/
def numberBytes (n : Nat) : List UInt8 :=
  [.ofNat (n % 256), .ofNat (n / 256)]

/-- A name, its length first. -/
def nameBytes (name : String) : List UInt8 :=
  .ofNat (Utf8.byteLength (clip name)) :: Utf8.encode (clip name)

/-- The entry of an open element. -/
def tagBytes : Tag → List UInt8
  | .known e => [e.byte]
  | .custom name => Tag.customByte :: nameBytes name

/-! ## Reading the parts -/

/-- The first `n` bytes and those after them. -/
def takeBytes? : Nat → List UInt8 → Option (List UInt8 × List UInt8)
  | 0, bytes => some ([], bytes)
  | _ + 1, [] => none
  | n + 1, b :: bytes => (takeBytes? n bytes).map fun (taken, rest) => (b :: taken, rest)

/-- A number of two bytes and the bytes after it. -/
def takeNumber? : List UInt8 → Option (Nat × List UInt8)
  | low :: high :: rest => some (low.toNat + 256 * high.toNat, rest)
  | _ => none

/-- A name and the bytes after it.  Bytes that are no UTF-8 make U+FFFD. -/
def takeName? : List UInt8 → Option (String × List UInt8)
  | [] => none
  | length :: bytes =>
    (takeBytes? length.toNat bytes).map fun (taken, rest) =>
      (String.ofList (Utf8.decodeLossy taken), rest)

/-- The entry of an open element and the bytes after it. -/
def takeTag? : List UInt8 → Option (Tag × List UInt8)
  | [] => none
  | byte :: bytes =>
    if byte = Tag.customByte then (takeName? bytes).map fun (name, rest) => (.custom name, rest)
    else (Element.ofByte? byte).map fun e => (.known e, bytes)

end TemplateScan.Snapshot
