import CleanSql.Document.Sql
import CleanSql.Yaml.Printer

/-!
# dbt models

A statement as a dbt model, whose source relation is looked up by a call of `source`, with the
schema file that documents its columns.
-/
namespace CleanSql

structure DbtModel where
  modelSql : String
  schemaYml : String
  deriving DecidableEq, Repr

structure ColumnDoc where
  name : String
  description : Option String
  /-- Whether the column is tested for missing values. -/
  notNull : Bool
  deriving DecidableEq, Repr

namespace DbtModel

/-- One character of a text inside a template string. -/
def escapeTemplate (c : Char) : List Char :=
  if c = '\\' then ['\\', '\\'] else if c = '\'' then ['\\', '\''] else [c]

def quoteTemplate (text : String) : String :=
  String.ofList ('\'' :: text.toList.flatMap escapeTemplate ++ ['\''])

def sourceCall (t : TableSpec) : String :=
  "\x7b\x7b source(" ++ quoteTemplate t.layer.name ++ ", " ++ quoteTemplate t.name ++ ") \x7d\x7d"

def model (t : TableSpec) (s : Statement) : String :=
  "WITH source AS (\n    SELECT * FROM " ++ sourceCall t ++ "\n),\ncleaned AS (\n" ++
    s.cleanedSelect "source" ++ ")\nSELECT * FROM cleaned"

/-- Missing values are filtered out or replaced; in a degraded column they are not. -/
def isFilled (column : Column) (compiled : CompiledColumn) : Bool :=
  !compiled.hasErrors &&
    (column.transformations.nullStrategy = .drop || column.transformations.nullStrategy = .replace)

/-- The entries of one column: its own, and that of its flag. -/
def columnDocs (t : TableSpec) (column : Column) (compiled : CompiledColumn) : List ColumnDoc :=
  ⟨column.name, t.noteFor column, !column.nullable || isFilled column compiled⟩ ::
    (compiled.flag.map fun flag =>
      ⟨flag.name, some ("NULL indicator for " ++ column.name), true⟩).toList

/-- The entries of a schema file, in the order of the columns. -/
def schemaColumns (t : TableSpec) (s : Statement) : List ColumnDoc :=
  (t.columns.zip s.projection).flatMap fun (column, compiled) => columnDocs t column compiled

end DbtModel

def ColumnDoc.toData (c : ColumnDoc) : Data :=
  .record <|
    [("name", .text c.name)] ++ (c.description.map fun d => ("description", Data.text d)).toList ++
      if c.notNull then [("tests", .list [.text "not_null"])] else []

namespace DbtModel

def schema (t : TableSpec) (s : Statement) : Data :=
  .record [("version", .nat 2),
    ("models", .list [.record [("name", .text t.name),
      ("columns", .ofList ColumnDoc.toData (schemaColumns t s))]])]

def of (t : TableSpec) (s : Statement) : DbtModel := ⟨model t s, (schema t s).toYaml⟩

end DbtModel

end CleanSql
