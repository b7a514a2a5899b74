import CleanSql.Diagnostic
import CleanSql.Fragment.Cast
import CleanSql.Table.Basic

/-!
# Malformed columns

The ways in which a transform can be on and yet say nothing that could be written. They do not
hang on the dialect.
-/
namespace CleanSql

inductive Malformation where
  | emptyDelimiter
  | indexOutOfRange (index : UInt64)
  | emptyPattern
  | noCases
  /-- A case without a condition, by its place counted from one. -/
  | emptyCondition (place : Nat)
  | emptyFilter
  | unreadableType (text : String)
  deriving DecidableEq, Repr

def Malformation.message : Malformation → String
  | emptyDelimiter => "delimiter_split is enabled with an empty delimiter"
  | indexOutOfRange i => "delimiter_split index " ++ toString i ++ " is out of range"
  | emptyPattern => "regex is enabled with an empty pattern"
  | noCases => "conditional is enabled without any cases"
  | emptyCondition n => "conditional case #" ++ toString n ++ " has an empty WHEN predicate"
  | emptyFilter => "where_filter is enabled with an empty condition"
  | unreadableType t => "type_cast '" ++ t ++ "' is not a recognizable type name"

def DelimiterSplit.malformations (s : DelimiterSplit) : List Malformation :=
  if s.enabled then
    (if s.delimiter = "" then [.emptyDelimiter] else []) ++
      if s.index.toNat + 1 < UInt64.size then [] else [.indexOutOfRange s.index]
  else []

def RegexTransform.malformations (r : RegexTransform) : List Malformation :=
  if r.enabled && r.pattern = "" then [.emptyPattern] else []

def ConditionalTransform.malformations (c : ConditionalTransform) : List Malformation :=
  if c.enabled then
    (if c.cases.isEmpty then [.noCases] else []) ++
      (c.cases.zipIdx 1).filterMap fun (one, place) =>
        if Text.isBlankText one.condition then some (.emptyCondition place) else none
  else []

def WhereFilter.malformations (w : WhereFilter) : List Malformation :=
  if w.enabled && Text.isBlankText w.condition then [.emptyFilter] else []

def CastReading.malformations : CastReading → List Malformation
  | unreadable text => [.unreadableType text]
  | _ => []

def CastReading.request? : CastReading → Option CastRequest
  | request r => some r
  | _ => none

namespace Transformations

/-- All that is malformed in a bag of transforms, in the order in which it is told. -/
def malformations (t : Transformations) : List Malformation :=
  t.delimiterSplit.malformations ++ t.regex.malformations ++ t.conditional.malformations ++
    t.whereFilter.malformations ++ (CastReading.of t.typeCast).malformations

def castRequest? (t : Transformations) : Option CastRequest := (CastReading.of t.typeCast).request?

/-- The expression that takes the place of the column, without the blanks around it. -/
def customExpression? (t : Transformations) : Option String :=
  let custom := Text.trim t.customExpression
  if custom = "" then none else some custom

end Transformations

end CleanSql
