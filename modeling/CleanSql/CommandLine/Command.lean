import CleanSql.CommandLine.Option
import CleanSql.Compilation

/-!
# Commands

The command that a command line asks for.
-/
namespace CleanSql.CommandLine

inductive Command where
  | compile (request : CompileRequest)
  | dialects (request : MatrixRequest)
  deriving DecidableEq, Repr

def dialectNames : List (String × Dialect) :=
  Dialect.all.map (fun d => (d.name, d)) ++
    [("snowflake", .snowflake), ("spark", .spark), ("bigquery", .bigquery)]

def targetNames : List (String × Target) :=
  [Target.sql, Target.dbt, Target.all].map fun t => (t.name, t)

def formatNames : List (String × OutputFormat) :=
  [OutputFormat.text, OutputFormat.json, OutputFormat.yaml].map fun f => (f.name, f)

/-- An option whose value is one of several names, letter by letter. -/
def OptionEffect.choice {α β : Type} (names : List (String × β)) (put : β → α → α) :
    OptionEffect α :=
  .value fun v => (names.lookup v).map put

def helpOption (α : Type) : CommandOption α := ⟨"help", some 'h', .stop .helpWanted⟩

def compileOptions : List (CommandOption CompileRequest) :=
  [⟨"table", some 't',
      .value fun v => if v = "" then none else some fun r => { r with table := v }⟩,
    ⟨"dialect", some 'd', .choice dialectNames fun d r => { r with dialect := some d }⟩,
    ⟨"target", none, .choice targetNames fun t r => { r with target := some t }⟩,
    ⟨"catalog", some 'c', .value fun v => some fun r => { r with catalog := some v }⟩,
    ⟨"format", some 'f', .choice formatNames fun f r => { r with format := f }⟩,
    ⟨"check", none, .mark fun r => { r with check := true }⟩,
    ⟨"verbose", some 'v', .mark fun r => { r with verbose := true }⟩,
    ⟨"no-color", none, .mark fun r => { r with noColor := true }⟩,
    helpOption CompileRequest]

def matrixOptions : List (CommandOption MatrixRequest) :=
  [⟨"format", some 'f', .choice formatNames fun f r => { r with format := f }⟩,
    ⟨"no-color", none, .mark fun r => { r with noColor := true }⟩,
    helpOption MatrixRequest]

/-- The options that stand before a command; nothing follows them. -/
def outerOptions : List (CommandOption Unit) :=
  [helpOption Unit, ⟨"version", some 'V', .stop .versionWanted⟩]

def commandNames : List String := ["compile", "dialects", "help"]

/-- The options of a compilation; its table has to be given. -/
def readCompile (arguments : List String) : Except UsageFault Command := do
  let p ← OptionProgress.readAll compileOptions arguments { request := { table := "" } }
  if p.seen.contains "table" then pure (.compile p.request) else throw .missingOption

def readDialects (arguments : List String) : Except UsageFault Command := do
  let p ← OptionProgress.readAll matrixOptions arguments { request := {} }
  pure (.dialects p.request)

def readHelp : List String → UsageFault
  | [] => .helpWanted
  | [name] => if commandNames.contains name then .helpWanted else .unknownCommand
  | _ => .unknownCommand

/-- What comes of an argument in the place of a command that is none. -/
def readOuter (argument : String) (rest : List String) : UsageFault :=
  let fault (result : Except UsageFault (OptionProgress Unit)) : UsageFault :=
    match result with
    | .ok _ => .noCommand
    | .error f => f
  match OptionProgress.ArgumentShape.of argument with
  | .plain => .unknownCommand
  | .long name value => fault (OptionProgress.readLong outerOptions name value { request := () })
  | .short letters => fault (OptionProgress.readShort outerOptions letters { request := () })
  | .divider =>
    match rest with
    | [] => .noCommand
    | name :: _ => if commandNames.contains name then .unknownArgument else .unknownCommand

def Command.read : List String → Except UsageFault Command
  | [] => .error .noCommand
  | "compile" :: rest => readCompile rest
  | "dialects" :: rest => readDialects rest
  | "help" :: rest => .error (readHelp rest)
  | argument :: rest => .error (readOuter argument rest)

end CleanSql.CommandLine
