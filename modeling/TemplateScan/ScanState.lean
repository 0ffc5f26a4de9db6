import TemplateScan.Markup.Tag
import TemplateScan.Mustache.Delimiter
import TemplateScan.Nesting

/-!
# The settings and the state of a scan

What the scanner carries from one token to the next: the open elements, the open sections and the
delimiters.  Elements and sections are nested independently of each other.
-/

namespace TemplateScan

open Markup Mustache

/-- The settings of a scanner. -/
structure ScanConfig where
  /-- Whether directives may set other delimiters. -/
  delimiterChanges : Bool := true
  /-- The number of bytes that a snapshot of the state may take. -/
  capacity : Nat := 1024
deriving DecidableEq, Repr, Inhabited

/-- What the scanner carries from one token to the next. -/
structure ScanState where
  tags : Nesting Tag := .empty
  sections : Nesting String := .empty
  delimiters : Delimiters := {}
deriving DecidableEq, Inhabited

namespace ScanState

/-- The state at the beginning of a document. -/
def fresh : ScanState :=
  {}

/-- Whether nothing is open and the delimiters are the built-in ones. -/
def isFresh (s : ScanState) : Bool :=
  s.tags.isEmpty && s.sections.isEmpty && s.delimiters == {}

end ScanState

end TemplateScan
