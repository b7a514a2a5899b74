import CleanSql.Data
import CleanSql.Report.Tree

/-!
# Reports for readers

A report and the capability matrix in one of three formats. The text format can be coloured; what
the colours surround is the same text.
-/
namespace CleanSql

inductive OutputFormat where
  | text | json | yaml
  deriving DecidableEq, Repr, Inhabited

def OutputFormat.name : OutputFormat → String
  | text => "text"
  | json => "json"
  | yaml => "yaml"

structure OutputOptions where
  format : OutputFormat := .text
  colored : Bool := true
  verbose : Bool := false
  deriving DecidableEq, Repr

inductive Ink where
  | bold | boldCyan | boldRed | boldYellow | yellow | green | blue
  deriving DecidableEq, Repr

/-- The numbers of an ink in a control sequence of the terminal. -/
def Ink.codes : Ink → String
  | bold => "1"
  | boldCyan => "1;36"
  | boldRed => "1;31"
  | boldYellow => "1;33"
  | yellow => "33"
  | green => "32"
  | blue => "34"

def Ink.start (ink : Ink) : String := "\x1b[" ++ ink.codes ++ "m"

def Ink.stop : String := "\x1b[0m"

/-- A text in an ink, if colours are on. Where the text itself ends all inks, the ink starts
again. -/
def Ink.paint (colored : Bool) (ink : Ink) (text : String) : String :=
  if colored then
    ink.start ++
      String.ofList (Text.addAfter '\x1b' ['[', '0', 'm'] ink.start.toList text.toList) ++ Ink.stop
  else text

namespace Report

def headline (colored : Bool) (text : String) : String := Ink.bold.paint colored text ++ "\n\n"

def columnLines (colored : Bool) (c : CompiledColumn) : String :=
  Ink.boldCyan.paint colored c.name ++ ": " ++ c.expression ++ "\n" ++
    (c.rowFilter.elim "" fun filter => "  filter: " ++ filter ++ "\n") ++
    (c.flag.elim "" fun flag => "  " ++ flag.name ++ ": " ++ flag.expression ++ "\n")

def severityInk : Severity → Ink
  | .error => .boldRed
  | .warning => .boldYellow
  | .info => .blue

def diagnosticLine (colored : Bool) (d : Diagnostic) : String :=
  let label := (severityInk d.severity).paint colored ("[" ++ d.severity.label ++ "]")
  if d.column = "" then label ++ " " ++ d.message ++ "\n"
  else label ++ " " ++ d.column ++ ": " ++ d.message ++ "\n"

def summaryInk : Option Severity → Ink
  | some .error => .boldRed
  | some .warning => .boldYellow
  | _ => .green

def summaryLine (s : Summary) : String :=
  "Summary: " ++ toString s.errors ++ " errors, " ++ toString s.warnings ++ " warnings, " ++
    toString s.info ++ " info"

def columnsSection (colored : Bool) (r : Report) : String :=
  headline colored ("=== Columns: " ++ r.layer.name ++ "." ++ r.table ++ " ===") ++
    String.join (r.columns.map (columnLines colored)) ++ "\n"

def sqlSection (colored : Bool) (r : Report) (sql : String) : String :=
  headline colored ("=== Compiled SQL (" ++ r.dialect.name ++ ") ===") ++ sql ++ "\n\n"

def dbtSection (colored : Bool) (r : Report) (m : DbtModel) : String :=
  headline colored ("=== dbt model: " ++ r.table ++ ".sql ===") ++ m.modelSql ++ "\n\n" ++
    headline colored "=== dbt schema.yml ===" ++ m.schemaYml ++ "\n"

def diagnosticsSection (colored : Bool) (r : Report) : String :=
  if r.diagnostics.isEmpty then ""
  else
    headline colored "=== Diagnostics ===" ++
      String.join (r.diagnostics.map (diagnosticLine colored)) ++ "\n"

def toText (colored verbose : Bool) (r : Report) : String :=
  (if verbose then r.columnsSection colored else "") ++
    r.sql.elim "" (r.sqlSection colored) ++ r.dbt.elim "" (r.dbtSection colored) ++
    r.diagnosticsSection colored ++
    (summaryInk r.maxSeverity?).paint colored (summaryLine r.summary) ++ "\n"

def format (o : OutputOptions) (r : Report) : String :=
  match o.format with
  | .json => r.toData.toJsonPretty
  | .yaml => r.toData.toYaml
  | .text => r.toText o.colored o.verbose

end Report

namespace Capabilities

def cell (width : Nat) (text : String) : String := text ++ "".pushn ' ' (width - text.length)

def rowLine (dialect regex title split cast uncast : String) : String :=
  cell 15 dialect ++ " " ++ cell 6 regex ++ " " ++ cell 11 title ++ " " ++ cell 12 split ++ " " ++
    cell 6 cast ++ " " ++ uncast

def yesNo (b : Bool) : String := if b then "yes" else "no"

def titleMode (c : Capabilities) : String :=
  if c.nativeTitleCase then "native" else if c.perWordTitleCase then "per-word" else "first-char"

def splitMode (c : Capabilities) : String :=
  match c.splitBase with
  | some .zero => "0-based"
  | some .one => "1-based"
  | none => "no"

def line (c : Capabilities) : String :=
  rowLine c.dialect.name (yesNo c.regexReplace) c.titleMode c.splitMode
    (if c.castShorthand then "::" else "CAST")
    (if c.unsupportedCasts.isEmpty then "-"
      else String.intercalate ", " (c.unsupportedCasts.map DataType.name))

/-- Dialects without regular expressions stand out. -/
def paintedLine (colored : Bool) (c : Capabilities) : String :=
  Ink.yellow.paint (colored && !c.regexReplace) c.line ++ "\n"

def matrixText (colored : Bool) (rows : List Capabilities) : String :=
  Report.headline colored "=== Dialect Capabilities ===" ++
    rowLine "DIALECT" "REGEX" "TITLE CASE" "SPLIT" "CAST" "NO CAST TO" ++ "\n" ++
    String.join (rows.map (paintedLine colored))

def formatMatrix (o : OutputOptions) (rows : List Capabilities) : String :=
  match o.format with
  | .json => (Data.ofList toData rows).toJsonPretty
  | .yaml => (Data.ofList toData rows).toYaml
  | .text => matrixText o.colored rows

end Capabilities

end CleanSql
