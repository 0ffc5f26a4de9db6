import TemplateScan.CommandLine

/-!
# The program

Reads what the arguments ask for, runs, and prints.
-/

open TemplateScan.CommandLine

/-- Why a file cannot be read. -/
def failureOf : IO.Error → Failure
  | .noFileOrDirectory .. => .fileNotFound
  | .inappropriateType .. => .isDirectory
  | e => .unreadable (toString e)

/-- Reads a source to its end. -/
def readSource : Source → IO (Except Failure (List UInt8))
  | .stdin => do
    let bytes ← (← IO.getStdin).readBinToEnd
    return .ok bytes.toList
  | .file path => do
    match ← (IO.FS.readBinFile path).toBaseIO with
    | .ok bytes => return .ok bytes.toList
    | .error e => return .error (failureOf e)

/-- Runs the program on the given arguments. -/
def main (args : List String) : IO UInt32 := do
  let input ← match parse args with
    | .ok (some o) => readSource o.source
    | _ => pure (.ok [])
  let result := run true args fun _ => input
  IO.eprint result.stderr
  IO.print result.stdout
  return result.code.toUInt32
