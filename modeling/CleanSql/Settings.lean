import CleanSql.Reading
import CleanSql.Report.Basic
import CleanSql.Toml.Decode

/-!
# Settings

What a run falls back on where the command line leaves a choice open. A settings file in the
working directory takes the place of the one in the home directory as a whole; a variable of the
environment then takes the place of the one choice that it is about.
-/
namespace CleanSql

structure Preferences where
  dialect : Option String := none
  catalog : Option String := none
  target : Option String := none
  deriving DecidableEq, Repr

namespace Preferences

/-- The choices of the first, and those of the second where the first leaves one open. -/
def orElse (first second : Preferences) : Preferences where
  dialect := first.dialect.or second.dialect
  catalog := first.catalog.or second.catalog
  target := first.target.or second.target

def ofEnvironment (variableValue : String → Option String) : Preferences where
  dialect := variableValue "TFORGE_DIALECT"
  catalog := variableValue "TFORGE_CATALOG"
  target := variableValue "TFORGE_TARGET"

end Preferences

structure Settings where
  preferences : Preferences := {}
  /-- Whether the output may be coloured. -/
  colored : Bool := true
  deriving DecidableEq, Repr

section Shapes

open Notation

variable {N E : Type} [Notation N E]

/-- A choice may be left out where it would be named, but not where only its place tells it. -/
def Preferences.shape : RecordShape N E Preferences where
  name := "CompileConfig"
  initial := {}
  fields :=
    [.of "dialect" text (fun s p => { p with dialect := some s }) false true,
      .of "catalog" text (fun s p => { p with catalog := some s }) false true,
      .of "target" text (fun s p => { p with target := some s }) false true]

def Settings.outputShape : RecordShape N E Bool where
  name := "OutputConfig"
  initial := true
  fields := [.of "colored" flag fun b _ => b]

def Settings.shape : RecordShape N E Settings where
  name := "Config"
  initial := {}
  fields :=
    [.of "compile" (record Preferences.shape) fun p s => { s with preferences := p },
      .of "output" (record Settings.outputShape) fun b s => { s with colored := b }]

def Settings.decode : N → Except E Settings := record Settings.shape

end Shapes

namespace Settings

def ofText (text : String) : Except Failure Settings :=
  (Toml.readWith Settings.decode text).mapError .invalidConfig

def ofReading (reading : Reading) : Except Failure Settings :=
  match reading with
  | .ok text => ofText text
  | .error fault => .error (.unreadableConfig fault.reason)

/-- The dialect that is chosen; none if the choice is open. -/
def dialect? (s : Settings) : Except Failure (Option Dialect) :=
  match s.preferences.dialect with
  | none => .ok none
  | some name =>
    match Dialect.ofName? name with
    | some d => .ok (some d)
    | none => .error (.unknownConfiguredDialect name)

/-- The documents that are chosen; none if the choice is open. -/
def target? (s : Settings) : Except Failure (Option Target) :=
  s.preferences.target.mapM Target.ofName

/-- Settings in which the choices of the environment come first. -/
def override (s : Settings) (environment : Preferences) : Settings :=
  { s with preferences := environment.orElse s.preferences }

end Settings

structure SettingsSources where
  /-- The file in the home directory; none if there is no such file. -/
  home : Option Reading := none
  /-- The file in the working directory. -/
  workplace : Option Reading := none
  environment : Preferences := {}

namespace SettingsSources

/-- A file that is there is read, even if another one takes its place. -/
def read? (file : Option Reading) : Except Failure (Option Settings) := file.mapM Settings.ofReading

def load (s : SettingsSources) : Except Failure Settings := do
  let home ← read? s.home
  let workplace ← read? s.workplace
  pure (((workplace.or home).getD {}).override s.environment)

end SettingsSources

end CleanSql
