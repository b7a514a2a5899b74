import CleanSql.Document.Dbt
import CleanSql.Error

/-!
# Reports

What a compilation run gives: the columns, the documents that were asked for, and every
diagnostic. The gravest diagnostic decides the exit code.
-/
namespace CleanSql

inductive Target where
  | sql | dbt | all
  deriving DecidableEq, Repr, Inhabited

namespace Target

def name : Target → String
  | sql => "sql"
  | dbt => "dbt"
  | all => "all"

def includesSql (t : Target) : Bool := t ≠ dbt

def includesDbt (t : Target) : Bool := t ≠ sql

/-- A target by its name, whatever the case of its letters and the blanks around it. -/
def ofName (s : String) : Except Failure Target :=
  match (Text.trim s).toLower with
  | "sql" => .ok sql
  | "dbt" => .ok dbt
  | "all" => .ok all
  | other => .error (.unknownTarget other)

end Target

def Dialect.ofName (s : String) : Except Failure Dialect :=
  match Dialect.ofName? s with
  | some d => .ok d
  | none => .error (.unknownDialect s)

structure Summary where
  errors : Nat := 0
  warnings : Nat := 0
  info : Nat := 0
  deriving DecidableEq, Repr

namespace Summary

def add (s : Summary) : Severity → Summary
  | .error => { s with errors := s.errors + 1 }
  | .warning => { s with warnings := s.warnings + 1 }
  | .info => { s with info := s.info + 1 }

/-- The diagnostics of a list, counted one after the other. -/
def of (ds : List Diagnostic) : Summary := ds.foldl (fun s d => s.add d.severity) {}

end Summary

structure Report where
  table : String
  layer : Layer
  dialect : Dialect
  target : Target
  columns : List CompiledColumn
  whereClause : Option String
  sql : Option String
  dbt : Option DbtModel
  diagnostics : List Diagnostic
  summary : Summary
  deriving DecidableEq, Repr

namespace Report

/-- The report on a statement, with the documents that were written for it. -/
def ofStatement (s : Statement) (layer : Layer) (target : Target) (sql : Option String)
    (dbt : Option DbtModel) : Report where
  table := s.table
  layer := layer
  dialect := s.dialect
  target := target
  columns := s.projection
  whereClause := s.whereClause
  sql := sql
  dbt := dbt
  diagnostics := s.allDiagnostics
  summary := Summary.of s.allDiagnostics

/-- The report on a table and its statement, with the documents of a target. -/
def of (t : TableSpec) (s : Statement) (target : Target) (catalog : Option String) : Report :=
  ofStatement s t.layer target
    (if target.includesSql then some (t.sql s catalog) else none)
    (if target.includesDbt then some (DbtModel.of t s) else none)

def push (r : Report) (d : Diagnostic) : Report :=
  { r with
    diagnostics := r.diagnostics ++ [d]
    summary := Summary.of (r.diagnostics ++ [d]) }

def maxSeverity? (r : Report) : Option Severity := Severity.max? (r.diagnostics.map (·.severity))

/-- Two if there are errors, one if there are warnings, else zero. -/
def exitCode (r : Report) : Nat :=
  match r.maxSeverity? with
  | some .error => 2
  | some .warning => 1
  | some .info | none => 0

end Report

end CleanSql
