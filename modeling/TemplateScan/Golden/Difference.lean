/-!
# Differences between listings

Two listings are compared line by line.  The report shows the first line in which they differ with
two lines of both listings before and after it; a line beyond the end of a listing is shown as
missing.
-/

namespace TemplateScan.Golden

/-- The lines shown on either side of the first difference. -/
def contextLines : Nat := 2

/-- A line of a listing, from 0 on. -/
def lineAt (lines : List String) (i : Nat) : String :=
  lines[i]?.getD "<missing>"

/-- The first line in which two listings, shown side by side, differ. -/
def firstDifference? (expected actual : List String) : Option Nat :=
  (List.range (max expected.length actual.length)).find? fun i =>
    lineAt expected i != lineAt actual i

/-- A number in at least four columns. -/
def column (n : Nat) : String :=
  String.ofList ((toString n).toList.leftpad 4 ' ')

/-- One line of both listings. -/
def pairOfLines (expected actual : List String) (first i : Nat) : String :=
  let head := (if i = first then "> " else "  ") ++ column (i + 1)
  head ++ " - " ++ lineAt expected i ++ "\n" ++ head ++ " + " ++ lineAt actual i ++ "\n"

/-- The report on two listings. -/
def difference (expected actual : List String) : String :=
  let size := max expected.length actual.length
  match firstDifference? expected actual with
  | none => "token listings match (" ++ toString size ++ " lines)\n"
  | some first =>
    let low := first - contextLines
    let high := min (first + contextLines + 1) size
    "token " ++ toString (first + 1) ++ " differs:\n" ++
      String.join ((List.range' low (high - low)).map (pairOfLines expected actual first)) ++
      "expected " ++ toString expected.length ++ " tokens, got " ++ toString actual.length ++ "\n"

end TemplateScan.Golden
