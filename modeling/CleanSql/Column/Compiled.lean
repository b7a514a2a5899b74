import CleanSql.Column.Pipeline

/-!
# Compiled columns

A column has three outputs that do not mix: a value, a row filter, and a flag that says where the
value is missing. A malformed column is given back as it is.
-/
namespace CleanSql

structure Companion where
  name : String
  expression : String
  deriving DecidableEq, Repr

structure CompiledColumn where
  name : String
  expression : String
  /-- The predicates of this column, in parentheses. -/
  rowFilter : Option String
  flag : Option Companion
  diagnostics : List Diagnostic
  deriving DecidableEq, Repr

namespace CompiledColumn

def hasErrors (c : CompiledColumn) : Bool := c.diagnostics.any (·.severity = .error)

end CompiledColumn

def flagName (column : String) : String := column ++ "_is_null"

/-- All predicates at once, each in parentheses; none if there are none. -/
def conjunction? (predicates : List String) : Option String :=
  if predicates.isEmpty then none
  else some (String.intercalate " AND " (predicates.map fun q => "(" ++ q ++ ")"))

namespace Column

def replacement (p : Profile) (c : Column) : Fragment :=
  p.writeTypedLiteral c.replacementType c.transformations.nullReplacement

/-- The value after missing values are seen to. -/
def filled (p : Profile) (c : Column) : Progress :=
  let g := c.staged p
  if c.transformations.nullStrategy = .replace then
    let f := c.replacement p
    ⟨p.writeCoalesce g.expression (f.orKeep (p.quoteLiteral c.transformations.nullReplacement)),
      (Progress.take c.name g f).diagnostics⟩
  else g

def value (p : Profile) (c : Column) : String :=
  let e := (c.filled p).expression
  let cases := c.transformations.conditional
  if cases.enabled then
    p.writeCases cases.cases (if cases.otherwise = "" then e else p.quoteLiteral cases.otherwise)
  else e

/-- The flag says where the value is missing before cases are put around it. -/
def flag? (p : Profile) (c : Column) : Option Companion :=
  if c.transformations.nullStrategy = .flag then
    some ⟨flagName c.name, p.writeNullFlag (c.staged p).expression⟩
  else none

def flagNotice (c : Column) : List Diagnostic :=
  if c.transformations.nullStrategy = .flag then
    [.notice c.name .warning
      ("null_strategy=flag requires the companion boolean column '" ++ flagName c.name ++
        "'; the value expression is unchanged")]
  else []

/-- Rows are dropped where the column is null; a custom expression need not name the column, so
there the value is asked instead. -/
def dropPredicate (p : Profile) (c : Column) : String :=
  p.writeNotNull
    (if c.transformations.customExpression?.isSome then (c.staged p).expression else c.reference p)

def predicates (p : Profile) (c : Column) : List String :=
  (if c.transformations.nullStrategy = .drop then [c.dropPredicate p] else []) ++
    if c.transformations.whereFilter.enabled then
      [Text.trim c.transformations.whereFilter.condition]
    else []

/-- The column as it stands, with all that is malformed about it. -/
def degraded (p : Profile) (c : Column) : CompiledColumn where
  name := c.name
  expression := c.reference p
  rowFilter := none
  flag := none
  diagnostics := c.transformations.malformations.map fun m => .malformed c.name m.message

def compile (d : Dialect) (c : Column) : CompiledColumn :=
  let p := d.profile
  if c.transformations.malformations.isEmpty then
    { name := c.name
      expression := c.value p
      rowFilter := conjunction? (c.predicates p)
      flag := c.flag? p
      diagnostics := (c.filled p).diagnostics ++ c.flagNotice }
  else c.degraded p

end Column

end CleanSql
