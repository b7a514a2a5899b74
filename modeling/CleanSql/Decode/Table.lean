import CleanSql.Decode.Shape
import CleanSql.Table.Basic

/-!
# Table documents

The shape of a table document, whatever notation it is written in.
-/
namespace CleanSql

open Notation

variable {N E : Type} [Notation N E]

def DataType.choices : List (String × DataType) :=
  [("string", .string), ("integer", .integer), ("float", .float), ("boolean", .boolean),
    ("date", .date), ("timestamp", .timestamp), ("json", .json)]

def CaseNormalization.choices : List (String × CaseNormalization) :=
  [("none", .none), ("upper", .upper), ("lower", .lower), ("title", .title)]

def NullStrategy.choices : List (String × NullStrategy) :=
  [("none", .none), ("drop", .drop), ("replace", .replace), ("flag", .flag)]

def Layer.choices : List (String × Layer) :=
  [("bronze", .bronze), ("silver", .silver), ("gold", .gold)]

def RegexTransform.shape : RecordShape N E RegexTransform where
  name := "RegexTransform"
  initial := {}
  fields :=
    [.of "enabled" flag fun b r => { r with enabled := b },
      .of "pattern" text fun s r => { r with pattern := s },
      .of "replacement" text fun s r => { r with replacement := s }]

def WhereFilter.shape : RecordShape N E WhereFilter where
  name := "WhereFilter"
  initial := {}
  fields :=
    [.of "enabled" flag fun b r => { r with enabled := b },
      .of "condition" text fun s r => { r with condition := s }]

def ConditionalCase.shape : RecordShape N E ConditionalCase where
  name := "ConditionalCase"
  initial := {}
  fields :=
    [.of "when" text fun s r => { r with condition := s },
      .of "then" text fun s r => { r with result := s }]

def ConditionalTransform.shape : RecordShape N E ConditionalTransform where
  name := "ConditionalTransform"
  initial := {}
  fields :=
    [.of "enabled" flag fun b r => { r with enabled := b },
      .of "cases" (list (record ConditionalCase.shape)) fun cs r => { r with cases := cs },
      .of "else_value" text fun s r => { r with otherwise := s }]

def DelimiterSplit.shape : RecordShape N E DelimiterSplit where
  name := "DelimiterSplit"
  initial := {}
  fields :=
    [.of "enabled" flag fun b r => { r with enabled := b },
      .of "delimiter" text fun s r => { r with delimiter := s },
      .of "index" Notation.index fun i r => { r with index := i }]

def Transformations.shape : RecordShape N E Transformations where
  name := "ColumnTransformations"
  initial := {}
  fields :=
    [.of "trim" flag fun b t => { t with trim := b },
      .of "case_normalization" (choice CaseNormalization.choices)
        fun c t => { t with caseNormalization := c },
      .of "null_strategy" (choice NullStrategy.choices) fun c t => { t with nullStrategy := c },
      .of "null_replacement" text fun s t => { t with nullReplacement := s },
      .of "type_cast" text fun s t => { t with typeCast := s },
      .of "strip_special_chars" flag fun b t => { t with stripSpecialChars := b },
      .of "regex" (record RegexTransform.shape) fun r t => { t with regex := r },
      .of "where_filter" (record WhereFilter.shape) fun w t => { t with whereFilter := w },
      .of "conditional" (record ConditionalTransform.shape) fun c t => { t with conditional := c },
      .of "delimiter_split" (record DelimiterSplit.shape) fun d t => { t with delimiterSplit := d },
      .of "custom_expression" text fun s t => { t with customExpression := s }]

def Column.shape : RecordShape N E Column where
  name := "Column"
  initial := { name := "" }
  fields :=
    [.of "name" text (fun s c => { c with name := s }) true,
      .of "data_type" (choice DataType.choices) fun t c => { c with dataType := t },
      .of "nullable" flag fun b c => { c with nullable := b },
      .of "transformations" (record Transformations.shape)
        fun t c => { c with transformations := t },
      .of "notes" text fun s c => { c with notes := s }]

def TableSpec.shape : RecordShape N E TableSpec where
  name := "TableSpec"
  initial := { name := "", columns := [] }
  fields :=
    [.of "name" text (fun s t => { t with name := s }) true,
      .of "layer" (choice Layer.choices) fun l t => { t with layer := l },
      .of "columns" (list (record Column.shape)) (fun cs t => { t with columns := cs }) true,
      .of "notes" (entries text) fun ns t => { t with notes := ns }]

def TableSpec.decode : N → Except E TableSpec := record TableSpec.shape

def Column.decode : N → Except E Column := record Column.shape

end CleanSql
