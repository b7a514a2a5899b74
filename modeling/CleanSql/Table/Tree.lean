import CleanSql.Data
import CleanSql.Table.Basic

/-!
# Tables as data

A table as the document that describes it. Empty notes are left out.
-/
namespace CleanSql

def CaseNormalization.name : CaseNormalization → String
  | none => "none"
  | upper => "upper"
  | lower => "lower"
  | title => "title"

def NullStrategy.name : NullStrategy → String
  | none => "none"
  | drop => "drop"
  | replace => "replace"
  | flag => "flag"

def RegexTransform.toData (r : RegexTransform) : Data :=
  .record [("enabled", .bool r.enabled), ("pattern", .text r.pattern),
    ("replacement", .text r.replacement)]

def WhereFilter.toData (w : WhereFilter) : Data :=
  .record [("enabled", .bool w.enabled), ("condition", .text w.condition)]

def ConditionalCase.toData (c : ConditionalCase) : Data :=
  .record [("when", .text c.condition), ("then", .text c.result)]

def ConditionalTransform.toData (c : ConditionalTransform) : Data :=
  .record [("enabled", .bool c.enabled), ("cases", .ofList ConditionalCase.toData c.cases),
    ("else_value", .text c.otherwise)]

def DelimiterSplit.toData (s : DelimiterSplit) : Data :=
  .record [("enabled", .bool s.enabled), ("delimiter", .text s.delimiter),
    ("index", .nat s.index.toNat)]

def Transformations.toData (t : Transformations) : Data :=
  .record [("trim", .bool t.trim), ("case_normalization", .text t.caseNormalization.name),
    ("null_strategy", .text t.nullStrategy.name), ("null_replacement", .text t.nullReplacement),
    ("type_cast", .text t.typeCast), ("strip_special_chars", .bool t.stripSpecialChars),
    ("regex", t.regex.toData), ("where_filter", t.whereFilter.toData),
    ("conditional", t.conditional.toData), ("delimiter_split", t.delimiterSplit.toData),
    ("custom_expression", .text t.customExpression)]

def Column.toData (c : Column) : Data :=
  .record <|
    [("name", .text c.name), ("data_type", .text c.dataType.name), ("nullable", .bool c.nullable),
      ("transformations", c.transformations.toData)] ++
    if c.notes = "" then [] else [("notes", .text c.notes)]

def TableSpec.toData (t : TableSpec) : Data :=
  .record <|
    [("name", .text t.name), ("layer", .text t.layer.name),
      ("columns", .ofList Column.toData t.columns)] ++
    if t.notes.isEmpty then [] else [("notes", .record (t.notes.map fun (k, v) => (k, .text v)))]

end CleanSql
