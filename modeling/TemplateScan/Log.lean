import TemplateScan.Document.Issue
import TemplateScan.Snapshot.Encoding
import TemplateScan.Text.Quoted
import TemplateScan.Token.Admissible

/-!
# The log

All that happens in a run is told as events.  A log record is an event with its level and the part
of the library it comes from; a log shows the records down to a chosen level.
-/

namespace TemplateScan

open Text Markup

/-- Something that happens in a run. -/
inductive Event where
  /-- An element is opened. -/
  | elementOpened (tag : Tag)
  /-- An element ends without an end tag of its own. -/
  | elementEnded (tag : Tag)
  /-- An element is closed by its end tag. -/
  | elementClosed (tag : Tag)
  /-- A section is opened. -/
  | sectionOpened (name : String)
  /-- A directive sets the opening delimiter. -/
  | openingSet (text : String)
  /-- A directive sets the closing delimiter. -/
  | closingSet (text : String)
  /-- A scan in the state `before` has found a token of the given kind, or none. -/
  | scanned (before : ScanState) (valid : TokenSet) (kind? : Option TokenKind)
  /-- A snapshot leaves something out. -/
  | truncated (snapshot : Snapshot.Encoding)
  /-- A snapshot of so many bytes could not be read to its end. -/
  | corrupt (length : Nat)
  /-- An issue is found. -/
  | issueFound (issue : Document.Issue)
  /-- A document has been read, with so many tokens, issues, elements and sections still open. -/
  | finished (tokens issues openTags openSections : Nat)

/-- How much detail a record is of, in ascending order. -/
inductive LogLevel where
  | debug | trace
deriving DecidableEq, Repr, Inhabited

/-- A record of the log. -/
structure LogRecord where
  level : LogLevel
  target : String
  message : String
deriving DecidableEq, Repr, Inhabited

namespace LogLevel

/-- The level in lower case. -/
def label : LogLevel → String
  | debug => "debug"
  | trace => "trace"

/-- The level with the given name. -/
def ofLabel? : String → Option LogLevel
  | "debug" => some debug
  | "trace" => some trace
  | _ => none

/-- Whether a log of this level shows records of the other. -/
def admits : LogLevel → LogLevel → Bool
  | trace, _ => true
  | debug, level => level == debug

end LogLevel

namespace Event

/-- The target of records about choices of tokens and whole documents. -/
def dispatchTarget : String := "scanner.dispatch"

/-- The target of records about changes of state. -/
def stateTarget : String := "scanner.state"

/-- The target of records about snapshots. -/
def snapshotTarget : String := "scanner.codec"

/-- The record of an event. -/
def record : Event → LogRecord
  | elementOpened tag => ⟨.trace, stateTarget, "push tag " ++ tag.name⟩
  | elementEnded tag => ⟨.trace, stateTarget, "pop tag " ++ tag.name⟩
  | elementClosed tag => ⟨.trace, stateTarget, "close tag " ++ tag.name⟩
  | sectionOpened name => ⟨.trace, stateTarget, "open section " ++ name⟩
  | openingSet text => ⟨.debug, stateTarget, "start delimiter -> " ++ shown text⟩
  | closingSet text => ⟨.debug, stateTarget, "end delimiter -> " ++ shown text⟩
  | scanned _ valid (some kind) =>
    ⟨.trace, dispatchTarget, "emit " ++ kind.label ++ " valid=" ++ valid.render⟩
  | scanned _ valid none => ⟨.trace, dispatchTarget, "decline valid=" ++ valid.render⟩
  | truncated e =>
    ⟨.debug, snapshotTarget,
      "state truncated: dropped_tags=" ++ toString e.droppedTags ++
        " dropped_sections=" ++ toString e.droppedSections ++
        " delimiters_dropped=" ++ toString e.delimitersDropped⟩
  | corrupt length =>
    ⟨.debug, snapshotTarget, "short or corrupt state buffer (" ++ toString length ++ " bytes)"⟩
  | issueFound issue =>
    ⟨.debug, dispatchTarget,
      "host error " ++ issue.cause.label ++ " at " ++ toString issue.position⟩
  | finished tokens issues openTags openSections =>
    ⟨.debug, dispatchTarget,
      "host done: tokens=" ++ toString tokens ++ " errors=" ++ toString issues ++
        " open_tags=" ++ toString openTags ++ " open_sections=" ++ toString openSections⟩

/-- Whether the event is the decision of a scan. -/
def isDecision : Event → Bool
  | scanned .. => true
  | _ => false

end Event

/-- The log of some events. -/
def logOf (level : LogLevel) (events : List Event) : List LogRecord :=
  (events.map Event.record).filter fun r => level.admits r.level

end TemplateScan
