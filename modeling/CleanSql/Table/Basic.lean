/-!
# Tables and their cleaning transforms

A table lists columns in order; each column carries a bag of transforms, every one of which is
off by default.
-/
namespace CleanSql

inductive DataType where
  | string | integer | float | boolean | date | timestamp | json
  deriving DecidableEq, Repr, Inhabited

namespace DataType

def all : List DataType := [.string, .integer, .float, .boolean, .date, .timestamp, .json]

theorem mem_all (t : DataType) : t ∈ all := by cases t <;> decide

def name : DataType → String
  | string => "string"
  | integer => "integer"
  | float => "float"
  | boolean => "boolean"
  | date => "date"
  | timestamp => "timestamp"
  | json => "json"

def isNumeric : DataType → Bool
  | integer | float => true
  | _ => false

def isTemporal : DataType → Bool
  | date | timestamp => true
  | _ => false

end DataType

inductive CaseNormalization where
  | none | upper | lower | title
  deriving DecidableEq, Repr, Inhabited

inductive NullStrategy where
  | none
  /-- Such rows are filtered out. -/
  | drop
  /-- A replacement value is written instead. -/
  | replace
  /-- A second, boolean column says which rows they are. -/
  | flag
  deriving DecidableEq, Repr, Inhabited

/-- The stage of the warehouse that a table belongs to. -/
inductive Layer where
  | bronze | silver | gold
  deriving DecidableEq, Repr, Inhabited

def Layer.name : Layer → String
  | bronze => "bronze"
  | silver => "silver"
  | gold => "gold"

structure RegexTransform where
  enabled : Bool := false
  pattern : String := ""
  replacement : String := ""
  deriving DecidableEq, Repr, Inhabited

/-- Keep only the rows that satisfy a condition, which is SQL and is never read. -/
structure WhereFilter where
  enabled : Bool := false
  condition : String := ""
  deriving DecidableEq, Repr, Inhabited

/-- The text `result` is written where the predicate `condition` holds. -/
structure ConditionalCase where
  condition : String := ""
  result : String := ""
  deriving DecidableEq, Repr, Inhabited

/-- An ordered list of cases: the first whose condition holds wins. -/
structure ConditionalTransform where
  enabled : Bool := false
  cases : List ConditionalCase := []
  /-- Written where no case applies; empty keeps the value. -/
  otherwise : String := ""
  deriving DecidableEq, Repr, Inhabited

/-- Keep the part at `index`, counted from zero, between delimiters. -/
structure DelimiterSplit where
  enabled : Bool := false
  delimiter : String := ","
  index : UInt64 := 0
  deriving DecidableEq, Repr, Inhabited

/-- The transforms of one column. Their order of application is fixed by the compiler. -/
structure Transformations where
  trim : Bool := false
  caseNormalization : CaseNormalization := .none
  nullStrategy : NullStrategy := .none
  nullReplacement : String := ""
  typeCast : String := ""
  stripSpecialChars : Bool := false
  regex : RegexTransform := {}
  whereFilter : WhereFilter := {}
  conditional : ConditionalTransform := {}
  delimiterSplit : DelimiterSplit := {}
  customExpression : String := ""
  deriving DecidableEq, Repr, Inhabited

structure Column where
  name : String
  dataType : DataType := .string
  nullable : Bool := true
  transformations : Transformations := {}
  notes : String := ""
  deriving DecidableEq, Repr, Inhabited

/-- A table: its columns in order, and notes on them that go before a column's own. -/
structure TableSpec where
  name : String
  layer : Layer := .bronze
  columns : List Column
  notes : List (String × String) := []
  deriving DecidableEq, Repr, Inhabited

/-- The note on a column: the table's if it has a nonempty one, else the column's own. -/
def TableSpec.noteFor (table : TableSpec) (column : Column) : Option String :=
  ((table.notes.lookup column.name).filter (· ≠ "")).or
    (if column.notes = "" then none else some column.notes)

end CleanSql
