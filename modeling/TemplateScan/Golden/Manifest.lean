import TemplateScan.Golden.Expectation
import TemplateScan.Lexing.Literal

/-!
# Manifests

A manifest lists the golden cases: a `format` and, in a table `[[cases]]` each, the cases with their
settings.  It is written in TOML.  How its tables are read from the text is left open; here is what
they tell.

* `parseManifest`: reads a manifest, given how tables are read.
* `selects`: whether a case is chosen by a part of its identifier.
-/

namespace TemplateScan.Golden

/-! ## Tables -/

/-- A value in a manifest. -/
inductive SettingValue where
  | text (value : String)
  | flag (value : Bool)
  | emptyList
  /-- Any other value, such as a number. -/
  | other
deriving DecidableEq, Repr

/-- The settings of a table, the latest first, each key once. -/
abbrev SettingTable := List (String × SettingValue)

/-- The tables of a manifest. -/
structure ManifestTables where
  /-- The settings before the first case. -/
  top : SettingTable := []
  /-- The cases, the latest first. -/
  cases : List SettingTable := []
deriving DecidableEq, Repr, Inhabited

/-! ## Cases -/

/-- Whether a golden case is checked, expected to fail or left out. -/
inductive CaseStatus where
  | active | xfail | skip
deriving DecidableEq, Repr, Inhabited

namespace CaseStatus

/-- The status with the given name. -/
def ofLabel? : String → Option CaseStatus
  | "active" => some active
  | "xfail" => some xfail
  | "skip" => some skip
  | _ => none

end CaseStatus

/-- A golden case. -/
structure GoldenCase where
  id : String
  status : CaseStatus := .active
  reason : Option String := none
  /-- Whether directives are disregarded. -/
  fixedDelimiters : Bool := false
deriving DecidableEq, Repr, Inhabited

/-- What is wrong with a manifest. -/
inductive ManifestError where
  | unreadable
  | unsupportedFormat (found : String)
  | duplicateId (id : String)
  | missingReason (id : String)
deriving DecidableEq, Repr

/-- The format of manifests. -/
def manifestFormat : String := "scanner-fixtures-v1"

/-- What is said about a manifest. -/
def ManifestError.message (file : String) : ManifestError → String
  | unreadable => "failed to parse fixture manifest " ++ file
  | unsupportedFormat found =>
    unequalMessage ("unsupported fixture manifest format in " ++ file) found manifestFormat
  | duplicateId id => "duplicate fixture id in " ++ file ++ ": " ++ id
  | missingReason id => "non-active fixture '" ++ id ++ "' missing reason in " ++ file

/-- The text of a setting, if it is one. -/
def SettingTable.text? (table : SettingTable) (key : String) : Option String :=
  match table.lookup key with
  | some (.text value) => some value
  | _ => none

/-- The case that a table tells of. -/
def GoldenCase.ofTable? (table : SettingTable) : Option GoldenCase := do
  let id ← table.text? "id"
  let status ← match table.lookup "status" with
    | none => some .active
    | some (.text label) => CaseStatus.ofLabel? label
    | _ => none
  let reason ← match table.lookup "reason" with
    | none => some none
    | some (.text reason) => some (some reason)
    | _ => none
  let fixedDelimiters ← match table.lookup "fixed_delimiters" with
    | none => some false
    | some (.flag flag) => some flag
    | _ => none
  pure { id, status, reason, fixedDelimiters }

/-- The format and the cases that the tables tell of.  A list of cases must be there, if only an
empty one. -/
def ManifestTables.goldenCases? (t : ManifestTables) : Option (String × List GoldenCase) := do
  let format ← t.top.text? "format"
  let cases ← t.cases.reverse.mapM GoldenCase.ofTable?
  match t.top.lookup "cases", t.cases with
    | none, [] => none
    | some .emptyList, _ | none, _ => some (format, cases)
    | _, _ => none

/-- Checks cases one after the other, given the identifiers of those before. -/
def checkCases (seen : List String) : List GoldenCase → Except ManifestError Unit
  | [] => .ok ()
  | f :: later =>
    if seen.contains f.id then .error (.duplicateId f.id)
    else if f.status ≠ .active && f.reason.getD "" = "" then .error (.missingReason f.id)
    else checkCases (f.id :: seen) later

/-- Reads a manifest, of which `tables?` reads the tables. -/
def parseManifest (tables? : String → Option ManifestTables) (content : String) :
    Except ManifestError (List GoldenCase) :=
  match (tables? content).bind ManifestTables.goldenCases? with
  | none => .error .unreadable
  | some (format, cases) =>
    if format ≠ manifestFormat then .error (.unsupportedFormat format)
    else match checkCases [] cases with
      | .error e => .error e
      | .ok () => .ok cases

/-! ## Selection -/

/-- Whether a filter selects a case: its identifier contains the filter.  Without a filter all are
selected. -/
def selects (filter : Option String) (id : String) : Bool :=
  filter.all fun text => (Lexing.occurrence? text.toList id.toList).isSome

end TemplateScan.Golden
