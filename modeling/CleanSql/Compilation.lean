import CleanSql.Reading
import CleanSql.Report.Text
import CleanSql.Settings
import CleanSql.Table.Document

/-!
# Compilation runs

A run reads a table, compiles it with what was asked for and, where nothing was, with what the
settings say, and reports on it. It may have the SQL read back; what the reader complains about is
one more diagnostic and changes nothing else.
-/
namespace CleanSql

structure CompileRequest where
  /-- The path of the table document; a dash stands for the standard input. -/
  table : String
  dialect : Option Dialect := none
  target : Option Target := none
  catalog : Option String := none
  format : OutputFormat := .text
  check : Bool := false
  verbose : Bool := false
  noColor : Bool := false
  deriving DecidableEq, Repr

/-- What a run does, every choice made. -/
structure CompilePlan where
  dialect : Dialect
  target : Target
  catalog : Option String
  deriving DecidableEq, Repr

/-- A reader of SQL, as far as a run is concerned: what it complains about, if anything. -/
abbrev SqlReader := Dialect → String → Option String

def Diagnostic.ofComplaint (d : Dialect) (complaint : String) : Diagnostic :=
  .syntaxCheck
    ("rendered SQL does not parse as " ++ d.name ++
      (match Position.of? complaint with
        | some p => " at line " ++ toString p.line ++ ", column " ++ toString p.column
        | none => "") ++
      ": " ++ complaint)

def SqlReader.diagnostic? (reader : SqlReader) (d : Dialect) (sql : String) : Option Diagnostic :=
  (reader d sql).map (Diagnostic.ofComplaint d)

namespace CompileRequest

/-- How the file of the table is called in a failure to read it. -/
def fileName (r : CompileRequest) : String := if r.table = "-" then "stdin" else r.table

/-- The table of a request, from what reading its file gave. -/
def readTable (r : CompileRequest) (file : Reading) : Except Failure TableSpec :=
  match file with
  | .error fault => .error (.unreadableFile r.fileName fault.reason)
  | .ok text => TableSpec.ofText (.ofPath r.table) r.table text

/-- The settings count only where the request leaves a choice open. -/
def plan (r : CompileRequest) (s : Settings) : Except Failure CompilePlan := do
  let dialect ← match r.dialect with
    | some d => pure d
    | none => s.dialect?.map (·.getD .ansi)
  let target ← match r.target with
    | some t => pure t
    | none => s.target?.map (·.getD .sql)
  pure ⟨dialect, target, r.catalog.or s.preferences.catalog⟩

end CompileRequest

namespace CompilePlan

/-- The report of a plan on a table, without what a reader says. -/
def report (p : CompilePlan) (t : TableSpec) : Report :=
  Report.of t (t.compile p.dialect) p.target p.catalog

/-- The SQL that is read back: that of the report, or, where the report goes without, what it would
have been. -/
def checkedSql (p : CompilePlan) (t : TableSpec) : String :=
  (p.report t).sql.getD (t.sql (t.compile p.dialect) p.catalog)

/-- What a reader says about the SQL of a table, whether or not it was asked for. -/
def complaint? (p : CompilePlan) (reader : SqlReader) (t : TableSpec) : Option Diagnostic :=
  reader.diagnostic? p.dialect (p.checkedSql t)

/-- The report of a plan on a table, with what a reader says if that is wanted. -/
def checkedReport (p : CompilePlan) (reader : SqlReader) (check : Bool) (t : TableSpec) : Report :=
  match if check then p.complaint? reader t else none with
  | some d => (p.report t).push d
  | none => p.report t

end CompilePlan

structure Compilation where
  report : Report
  /-- The report as it is printed. -/
  output : String
  deriving DecidableEq, Repr

/-- Runs a request on a file. Colours need the leave of the request, of the settings and of the
place that the output goes to. -/
def CompileRequest.run (reader : SqlReader) (inks : Bool) (r : CompileRequest) (s : Settings)
    (file : Reading) : Except Failure Compilation := do
  let table ← r.readTable file
  let plan ← r.plan s
  let report := plan.checkedReport reader r.check table
  pure
    { report
      output := report.format
        { format := r.format, colored := inks && !r.noColor && s.colored, verbose := r.verbose } }

structure MatrixRequest where
  format : OutputFormat := .text
  noColor : Bool := false
  deriving DecidableEq, Repr

def MatrixRequest.run (inks : Bool) (r : MatrixRequest) (s : Settings) : String :=
  Capabilities.formatMatrix { format := r.format, colored := inks && !r.noColor && s.colored }
    (Dialect.all.map fun d => d.profile.capabilities)

end CleanSql
