import CleanSql.Column.Malformed
import CleanSql.Diagnostic
import CleanSql.Fragment.Literal
import CleanSql.Fragment.Text

/-!
# The stages of a column

Every column runs through the same stages in the same order: its start expression, trimming,
letter case, special characters, split parts, regular expressions, the cast, missing values, and
cases last. A stage sees nothing but the expression that reaches it.
-/
namespace CleanSql

/-- A stage that turns one expression into another. -/
inductive Stage where
  | trim
  | upper
  | lower
  | title
  | strip
  | split (delimiter : String) (index : UInt64)
  | regex (pattern replacement : String)
  | cast (request : CastRequest)
  deriving DecidableEq, Repr

def Stage.write (p : Profile) (e : String) : Stage → Fragment
  | trim => .exact (p.writeTrim e)
  | upper => .exact (p.writeUpper e)
  | lower => .exact (p.writeLower e)
  | title => p.writeTitle e
  | strip => p.writeStrip e
  | split delimiter index => p.writeSplit delimiter index e
  | regex pattern replacement => p.writeRegex pattern replacement e
  | cast request => p.writeCast request e

def CaseNormalization.stage? : CaseNormalization → Option Stage
  | none => .none
  | upper => some .upper
  | lower => some .lower
  | title => some .title

/-- The stages that treat a value as text, in order. -/
def Transformations.textStages (t : Transformations) : List Stage :=
  (if t.trim then [.trim] else []) ++ t.caseNormalization.stage?.toList ++
    (if t.stripSpecialChars then [.strip] else []) ++
    (if t.delimiterSplit.enabled then [.split t.delimiterSplit.delimiter t.delimiterSplit.index]
      else []) ++
    (if t.regex.enabled then [.regex t.regex.pattern t.regex.replacement] else [])

def Transformations.stages (t : Transformations) : List Stage :=
  t.textStages ++ (t.castRequest?.map Stage.cast).toList

def Stage.setting : Stage → String
  | trim => "trim"
  | upper | lower | title => "case_normalization"
  | strip => "strip_special_chars"
  | split _ _ => "delimiter_split"
  | regex _ _ => "regex"
  | cast _ => "type_cast"

/-- An expression on its way, with what there was to say about it. -/
structure Progress where
  expression : String
  diagnostics : List Diagnostic := []
  deriving DecidableEq, Repr

namespace Progress

def take (column : String) (g : Progress) (f : Fragment) : Progress where
  expression := f.orKeep g.expression
  diagnostics :=
    g.diagnostics ++ (f.caveat?.map fun c => Diagnostic.unsupported column c.message).toList

/-- A type that is not the engine's is remarked upon. -/
def castNotice (column : String) : Stage → List Diagnostic
  | .cast (.verbatim type) =>
    [.notice column .info
      ("type_cast '" ++ type ++ "' is not an engine type; emitted verbatim")]
  | _ => []

def step (p : Profile) (column : String) (g : Progress) (s : Stage) : Progress :=
  take column { g with diagnostics := g.diagnostics ++ castNotice column s }
    (s.write p g.expression)

def run (p : Profile) (column : String) (g : Progress) (stages : List Stage) : Progress :=
  stages.foldl (step p column) g

end Progress

namespace Column

def reference (p : Profile) (c : Column) : String := p.quoteIdentifier c.name

/-- The custom expression if there is one, else the column itself. -/
def startExpression (p : Profile) (c : Column) : String :=
  c.transformations.customExpression?.getD (c.reference p)

/-- Text stages on a column that is not text are remarked upon: most engines refuse or convert
such a value. -/
def textNotice (c : Column) : List Diagnostic :=
  let settings := c.transformations.textStages.map Stage.setting
  if c.dataType = .string || c.transformations.customExpression?.isSome || settings.isEmpty then []
  else
    [.notice c.name .warning
      (String.intercalate ", " settings ++ " applied to " ++ c.dataType.name ++
        " column; value is treated as text")]

/-- The type of a replacement value: what the column is cast to, else what it is declared as. -/
def replacementType (c : Column) : DataType :=
  match c.transformations.castRequest? with
  | some (.engine type) => type
  | _ => c.dataType

/-- The value before missing values are seen to. -/
def staged (p : Profile) (c : Column) : Progress :=
  Progress.run p c.name ⟨c.startExpression p, c.textNotice⟩ c.transformations.stages

end Column

end CleanSql
