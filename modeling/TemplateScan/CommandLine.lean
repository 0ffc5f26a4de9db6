import TemplateScan.Host.Parse

/-!
# The command line

The program prints the token listing of a template, its issues and what is still open at its end.
Its exit code tells whether the template is clean (0), has issues (1) or could not be read at all
(2), or that the reading broke off at a fault (101).
-/

namespace TemplateScan.CommandLine

open Text

/-- How much of the log is shown. -/
inductive Verbosity where
  | quiet | decisions | everything
deriving DecidableEq, Repr, Inhabited

/-- The settings of a run of the program. -/
structure Options where
  config : ScanConfig := {}
  checkpoint : Bool := false
  verbosity : Verbosity := .quiet
  /-- The file to read instead of the standard input. -/
  path : Option String := none
deriving DecidableEq, Repr, Inhabited

/-- Why a run of the program fails. -/
inductive Failure where
  | missingValue (option : String)
  | emptyNumber
  | invalidDigit
  | numberTooLarge
  | unknownOption (option : String)
  | severalFiles
  | fileNotFound
  | isDirectory
  | notUtf8
  | unreadable (reason : String)
  | invalidSpan (error : InvalidSpan)
deriving DecidableEq, Repr

/-- What is said about a failure. -/
def Failure.message : Failure → String
  | missingValue option => option ++ " needs a value"
  | emptyNumber => "cannot parse integer from empty string"
  | invalidDigit => "invalid digit found in string"
  | numberTooLarge => "number too large to fit in target type"
  | unknownOption option => "unknown option '" ++ option ++ "'"
  | severalFiles => "more than one input file"
  | fileNotFound => "No such file or directory (os error 2)"
  | isDirectory => "Is a directory (os error 21)"
  | notUtf8 => "stream did not contain valid UTF-8"
  | unreadable reason => reason
  | invalidSpan error => error.message

/-- The name of the program. -/
def programName : String := "htmlmustache-scan"

/-- How the program is called. -/
def usage : String :=
  "usage: " ++ programName ++
    " [--checkpoint] [--fixed-delimiters] [--capacity N] [-v|-vv] [FILE]\n"

/-! ## Arguments -/

/-- The largest number of bytes that can be asked for. -/
def maxSize : Nat := UInt64.size - 1

/-- The number that decimal digits write, onto the digits before.  The first digit too many or
character that is no digit decides. -/
def digitsValue (n : Nat) : List Char → Except Failure Nat
  | [] => .ok n
  | c :: rest =>
    if !c.isDigit then .error .invalidDigit
    else
      let n := 10 * n + (c.toNat - 0x30)
      if maxSize < n then .error .numberTooLarge else digitsValue n rest

/-- A number of bytes: decimal digits, with or without a plus sign before them. -/
def sizeOf (text : String) : Except Failure Nat :=
  match text.toList with
  | [] => .error .emptyNumber
  | '+' :: c :: digits => digitsValue 0 (c :: digits)
  | digits => digitsValue 0 digits

/-- Takes the arguments into the options, from left to right; `none` if the usage is asked for. -/
def parseOnto (o : Options) : List String → Except Failure (Option Options)
  | [] => .ok (some o)
  | "--checkpoint" :: later => parseOnto { o with checkpoint := true } later
  | "--fixed-delimiters" :: later =>
    parseOnto { o with config := { o.config with delimiterChanges := false } } later
  | ["--capacity"] => .error (.missingValue "--capacity")
  | "--capacity" :: value :: later =>
    match sizeOf value with
    | .error e => .error e
    | .ok n => parseOnto { o with config := { o.config with capacity := n } } later
  | "-v" :: later => parseOnto { o with verbosity := .decisions } later
  | "-vv" :: later => parseOnto { o with verbosity := .everything } later
  | "-h" :: _ | "--help" :: _ => .ok none
  | arg :: later =>
    if arg.toList.head? = some '-' && arg ≠ "-" then .error (.unknownOption arg)
    else if o.path.isSome then .error .severalFiles
    else parseOnto { o with path := some arg } later

/-- The options that the arguments set; `none` if the usage is asked for. -/
def parse (args : List String) : Except Failure (Option Options) :=
  parseOnto {} args

/-! ## The report -/

/-- The names of what is still open, as a line, if anything is. -/
def openLine (label : String) (names : List String) : List String :=
  if names.isEmpty then [] else ["# " ++ label ++ ": " ++ " ".intercalate names]

/-- The lines of the report on a document. -/
def reportLines (text : String) (o : Document.Outcome) : Except InvalidSpan (List String) :=
  match Token.lines text.toList o.tokens with
  | .error e => .error e
  | .ok listing =>
    .ok (listing ++ o.issues.map (fun issue => "# error: " ++ issue.message) ++
      openLine "open-tags" (o.openTags.map Markup.Tag.name) ++
      openLine "open-sections" o.openSections)

/-! ## The log -/

/-- How a character of a message is written to a terminal: controls that begin a terminal sequence
by number. -/
def terminalChar (c : Char) : List Char :=
  if c = '\x1B' then "\\x1b".toList
  else if c = '\x07' then "\\x07".toList
  else if c = '\x08' then "\\x08".toList
  else if c = '\x0C' then "\\x0c".toList
  else if c = '\x7F' then "\\x7f".toList
  else if 0x80 ≤ c.toNat && c.toNat ≤ 0x9F then numberedChar c
  else [c]

/-- A log record as a line for the terminal. -/
def recordLine (r : LogRecord) : String :=
  r.level.label.map Char.toUpper ++ " " ++ r.target ++ ": " ++
    String.ofList (r.message.toList.flatMap terminalChar)

/-- The lines of the log.  The decision of each scan is left out. -/
def logLines (verbosity : Verbosity) (events : List Event) : List String :=
  let events := events.filter (!·.isDecision)
  match verbosity with
  | .quiet => []
  | .decisions => (logOf .debug events).map recordLine
  | .everything => (logOf .trace events).map recordLine

/-! ## The program -/

/-- What a run of the program leaves behind. -/
structure Result where
  code : Nat
  stdout : String
  stderr : String
deriving DecidableEq, Repr, Inhabited

/-- Lines as they are printed, each with a line feed behind it. -/
def printed (lines : List String) : String :=
  String.join (lines.map (· ++ "\n"))

/-- A run that fails after the given lines of the log. -/
def failed (log : List String) (failure : Failure) : Result :=
  ⟨2, "", printed (log ++ [programName ++ ": " ++ failure.message])⟩

/-- A run that breaks off at a fault. -/
def brokenOff (fault : Document.Fault) : Result :=
  ⟨101, "", printed [fault.message]⟩

/-- Runs the program over an input.  `checked` tells whether it is built to check that no count goes
over. -/
def report (checked : Bool) (o : Options) (input : List UInt8) : Result :=
  match Utf8.decode? input with
  | none => failed [] .notUtf8
  | some cs =>
    let text := String.ofList cs
    match Document.readNew o.config o.checkpoint checked text with
    | .error fault => brokenOff fault
    | .ok host =>
      let log := logLines o.verbosity host.events
      match reportLines text host.outcome with
      | .error e => failed log (.invalidSpan e)
      | .ok lines => ⟨if host.issues.isEmpty then 0 else 1, printed lines, printed log⟩

/-- What the program reads, by the options. -/
inductive Source where
  | stdin
  | file (path : String)
deriving DecidableEq, Repr

/-- Where the input comes from. -/
def Options.source (o : Options) : Source :=
  match o.path with
  | some path => if path = "-" then .stdin else .file path
  | none => .stdin

/-- Runs the program on arguments, given what can be read. -/
def run (checked : Bool) (args : List String) (read : Source → Except Failure (List UInt8)) :
    Result :=
  match parse args with
  | .error e => failed [] e
  | .ok none => ⟨0, usage, ""⟩
  | .ok (some o) =>
    match read o.source with
    | .error e => failed [] e
    | .ok input => report checked o input

end TemplateScan.CommandLine
