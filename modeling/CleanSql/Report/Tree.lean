import CleanSql.Dialect.Profile
import CleanSql.Report.Basic

/-!
# Reports as data
-/
namespace CleanSql

def Diagnostic.toData (d : Diagnostic) : Data :=
  .record [("severity", .text d.severity.name), ("kind", .text d.kind.name),
    ("column", .text d.column), ("message", .text d.message)]

def Companion.toData (c : Companion) : Data :=
  .record [("name", .text c.name), ("expression", .text c.expression)]

def CompiledColumn.toData (c : CompiledColumn) : Data :=
  .record [("name", .text c.name), ("expression", .text c.expression),
    ("row_filter", .ofOption .text c.rowFilter), ("flag", .ofOption Companion.toData c.flag),
    ("diagnostics", .ofList Diagnostic.toData c.diagnostics)]

def Statement.toData (s : Statement) : Data :=
  .record [("table", .text s.table), ("dialect", .text s.dialect.name),
    ("projection", .ofList CompiledColumn.toData s.projection),
    ("where_clause", .ofOption .text s.whereClause),
    ("diagnostics", .ofList Diagnostic.toData s.diagnostics)]

def DbtModel.toData (m : DbtModel) : Data :=
  .record [("model_sql", .text m.modelSql), ("schema_yml", .text m.schemaYml)]

def Summary.toData (s : Summary) : Data :=
  .record [("errors", .nat s.errors), ("warnings", .nat s.warnings), ("info", .nat s.info)]

/-- A document that was not asked for is left out. -/
def Report.toData (r : Report) : Data :=
  .record <|
    [("table", .text r.table), ("layer", .text r.layer.name), ("dialect", .text r.dialect.name),
      ("target", .text r.target.name), ("columns", .ofList CompiledColumn.toData r.columns),
      ("where_clause", .ofOption .text r.whereClause)] ++
    (r.sql.map fun s => ("sql", Data.text s)).toList ++
    (r.dbt.map fun m => ("dbt", m.toData)).toList ++
    [("diagnostics", .ofList Diagnostic.toData r.diagnostics), ("summary", r.summary.toData)]

def IndexBase.name : IndexBase → String
  | zero => "zero"
  | one => "one"

def Capabilities.toData (c : Capabilities) : Data :=
  .record [("dialect", .text c.dialect.name), ("regex_replace", .bool c.regexReplace),
    ("native_title_case", .bool c.nativeTitleCase),
    ("per_word_title_case", .bool c.perWordTitleCase), ("split", .bool c.split),
    ("split_index_base", .ofOption (fun b : IndexBase => .text b.name) c.splitBase),
    ("cast_shorthand", .bool c.castShorthand),
    ("unsupported_casts", .ofList (fun t : DataType => .text t.name) c.unsupportedCasts)]

end CleanSql
