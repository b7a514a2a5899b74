import CleanSql.Column.Compiled

/-!
# Statements

A table compiled: its columns in declared order, one clause for all row filters, and the names
that would occur twice.
-/
namespace CleanSql

structure Statement where
  table : String
  dialect : Dialect
  projection : List CompiledColumn
  /-- None if no column filters rows. -/
  whereClause : Option String
  /-- What is said about the statement and not about one column's transforms. -/
  diagnostics : List Diagnostic
  deriving DecidableEq, Repr

namespace Statement

def whereClause? (projection : List CompiledColumn) : Option String :=
  let filters := projection.filterMap (·.rowFilter)
  if filters.isEmpty then none else some (String.intercalate " AND " filters)

/-- The names that occur a further time, each time they do. -/
def repeated (seen : List String) : List String → List String
  | [] => []
  | name :: rest =>
    if seen.contains name then name :: repeated seen rest else repeated (name :: seen) rest

def duplicateNotice (table name : String) : Diagnostic :=
  .notice name .warning
    ("column '" ++ name ++ "' is declared more than once in table '" ++ table ++ "'")

def clashNotice (column flag : String) : Diagnostic :=
  .notice column .warning
    ("null flag column '" ++ flag ++ "' clashes with a declared column of the same name")

/-- A flag whose name is that of a declared column. -/
def clash? (declared : List String) (c : CompiledColumn) : Option Diagnostic :=
  c.flag.bind fun flag =>
    if declared.contains flag.name then some (clashNotice c.name flag.name) else none

/-- First what is said about columns, in their order, then what is said about the statement. -/
def allDiagnostics (s : Statement) : List Diagnostic :=
  s.projection.flatMap (·.diagnostics) ++ s.diagnostics

def count (s : Statement) (severity : Severity) : Nat := countSeverity severity s.allDiagnostics

def maxSeverity? (s : Statement) : Option Severity :=
  Severity.max? (s.allDiagnostics.map (·.severity))

end Statement

def TableSpec.compile (d : Dialect) (t : TableSpec) : Statement :=
  let projection := t.columns.map (Column.compile d)
  let declared := t.columns.map (·.name)
  { table := t.name
    dialect := d
    projection
    whereClause := Statement.whereClause? projection
    diagnostics :=
      (Statement.repeated [] declared).map (Statement.duplicateNotice t.name) ++
        projection.filterMap (Statement.clash? declared) }

end CleanSql
