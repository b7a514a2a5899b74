import CleanSql.CommandLine.Command

/-!
# The program

What a run of the program leaves behind, as a function of its command line and of what it can see:
files, variables of the environment, and the standard input.
-/
namespace CleanSql

structure Surroundings where
  variableValue : String → Option String
  /-- What reading the file at a path gives. -/
  file : String → Reading
  input : Reading
  /-- Whether the output goes to a terminal. -/
  terminal : Bool := false

/-- A file that is there, whether or not it can be read. -/
def Reading.present? (r : Reading) : Option Reading :=
  match r with
  | .ok text => some (.ok text)
  | .error fault =>
    if fault = .missing ∨ fault = .notDirectory then none else some (.error fault)

def workplaceSettingsPath : String := ".tforge.toml"

def homeSettingsPath (home : String) : String :=
  let path := ".config/tforge/config.toml"
  if home = "" then path
  else if home.toList.getLast? = some '/' then home ++ path
  else home ++ "/" ++ path

namespace Surroundings

def settingsSources (w : Surroundings) : SettingsSources where
  home := (w.variableValue "HOME").bind fun home => (w.file (homeSettingsPath home)).present?
  workplace := (w.file workplaceSettingsPath).present?
  environment := .ofEnvironment w.variableValue

/-- Whether colours are shown: on a terminal unless a variable forbids it, and elsewhere only if a
variable forces it. -/
def inks (w : Surroundings) : Bool :=
  match w.variableValue "CLICOLOR_FORCE", w.variableValue "NO_COLOR", w.variableValue "CLICOLOR" with
  | some force, none, clicolor => force ≠ "0" || (w.terminal && clicolor ≠ some "0")
  | some force, some _, _ => force ≠ "0"
  | none, some _, _ => false
  | none, none, clicolor => w.terminal && clicolor ≠ some "0"

def tableFile (w : Surroundings) (path : String) : Reading :=
  if path = "-" then w.input else w.file path

end Surroundings

structure Outcome where
  exitCode : Nat
  output : String := ""
  /-- What goes to the error stream. -/
  errors : String := ""
  deriving DecidableEq, Repr

namespace Program

open CommandLine

def name : String := "tforge"

def version : String := "0.3.0"

def usage : String :=
  "Compiles declarative column cleaning transforms to SQL\n\n" ++
  "Usage: " ++ name ++ " compile --table <TABLE> [--dialect <DIALECT>] [--target <TARGET>]\n" ++
  "                      [--catalog <CATALOG>] [--format <FORMAT>] [--check] [--verbose]\n" ++
  "                      [--no-color]\n" ++
  "       " ++ name ++ " dialects [--format <FORMAT>] [--no-color]\n"

/-- What a command gives under given settings: an exit code and a text. -/
def runCommand (reader : SqlReader) (w : Surroundings) (s : Settings) :
    Command → Except Failure (Nat × String)
  | .compile r => do
    let c ← r.run reader w.inks s (w.tableFile r.table)
    pure (c.report.exitCode, c.output)
  | .dialects r => .ok (0, r.run w.inks s)

def perform (reader : SqlReader) (w : Surroundings) (c : Command) : Outcome :=
  match (do runCommand reader w (← w.settingsSources.load) c) with
  | .ok (code, text) => { exitCode := code, output := text ++ "\n" }
  | .error f => { exitCode := 1, errors := "Error: " ++ f.kind.label ++ "\n" }

/-- What a command line leaves behind that asks for no command. -/
def decline : UsageFault → Outcome
  | .helpWanted => { exitCode := 0, output := usage }
  | .versionWanted => { exitCode := 0, output := name ++ " " ++ version ++ "\n" }
  | _ => { exitCode := 2, errors := usage }

def run (reader : SqlReader) (w : Surroundings) (arguments : List String) : Outcome :=
  match Command.read arguments with
  | .ok c => perform reader w c
  | .error fault => decline fault

def paths (variableValue : String → Option String) (arguments : List String) : List String :=
  match Command.read arguments with
  | .error _ => []
  | .ok c =>
    ((variableValue "HOME").map homeSettingsPath).toList ++ [workplaceSettingsPath] ++
      match c with
      | .compile r => [r.table]
      | .dialects _ => []

end Program

end CleanSql
