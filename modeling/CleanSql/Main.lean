import CleanSql.Program
import CleanSql.Query.Check

/-!
# The executable

Reads what a run may see and prints what it leaves behind.
-/
namespace CleanSql

def readFaultOf : IO.Error → ReadFault
  | .noFileOrDirectory _ code words => .refused words code.toNat
  | .inappropriateType _ code words => .refused words code.toNat
  | .permissionDenied _ code words => .refused words code.toNat
  | .invalidArgument _ code words => .refused words code.toNat
  | .otherError code words => .refused words code.toNat
  | error => .refused (toString error) 5

def readFile (path : String) : IO Reading := do
  try return Reading.ofBytes (← IO.FS.readBinFile path)
  catch error => return .error (readFaultOf error)

def readInput : IO Reading := do
  let bytes ← (← IO.getStdin).readBinToEnd
  return Reading.ofBytes bytes

def variableNames : List String :=
  ["HOME", "TFORGE_DIALECT", "TFORGE_CATALOG", "TFORGE_TARGET", "CLICOLOR", "CLICOLOR_FORCE",
    "NO_COLOR"]

/-- What the program can see when it is called with some arguments. -/
def look (arguments : List String) : IO Surroundings := do
  let values ← variableNames.mapM fun name => do return (name, ← IO.getEnv name)
  let variableValue (name : String) : Option String := (values.lookup name).join
  let paths := Program.paths variableValue arguments
  let files ← (paths.filter (· ≠ "-")).mapM fun path => do return (path, ← readFile path)
  let input ← if paths.contains "-" then readInput else pure (.ok "")
  return {
    variableValue
    file := fun path => (files.lookup path).getD (.error .missing)
    input
    terminal := ← (← IO.getStdout).isTty }

end CleanSql

open CleanSql in
def main (arguments : List String) : IO UInt32 := do
  let outcome := Program.run Query.complaint (← look arguments) arguments
  IO.print outcome.output
  IO.eprint outcome.errors
  return UInt32.ofNat outcome.exitCode
