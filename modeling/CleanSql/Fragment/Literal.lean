import CleanSql.Dialect.Quoting
import CleanSql.Fragment.Cast
import CleanSql.Text.Basic

/-!
# Missing values and cases

A replacement for missing values is written as a literal of the type it replaces: numbers and
booleans bare, dates as casts, all else quoted.
-/
namespace CleanSql

inductive NumeralState where
  | start
  | signed
  | whole
  /-- A point with no digit before it. -/
  | barePoint
  | fraction
  | exponent
  | exponentSigned
  | exponentDigits
  | failed
  deriving DecidableEq, Repr

namespace NumeralState

def isSign (c : Char) : Bool := c == '+' || c == '-'

def isExponentMark (c : Char) : Bool := c == 'e' || c == 'E'

def step : NumeralState → Char → NumeralState
  | start, c =>
    if isSign c then signed
    else if Text.isDecimalDigit c then whole
    else if c == '.' then barePoint
    else failed
  | signed, c =>
    if Text.isDecimalDigit c then whole else if c == '.' then barePoint else failed
  | whole, c =>
    if Text.isDecimalDigit c then whole
    else if c == '.' then fraction
    else if isExponentMark c then exponent
    else failed
  | barePoint, c => if Text.isDecimalDigit c then fraction else failed
  | fraction, c =>
    if Text.isDecimalDigit c then fraction else if isExponentMark c then exponent else failed
  | exponent, c =>
    if isSign c then exponentSigned
    else if Text.isDecimalDigit c then exponentDigits
    else failed
  | exponentSigned, c => if Text.isDecimalDigit c then exponentDigits else failed
  | exponentDigits, c => if Text.isDecimalDigit c then exponentDigits else failed
  | failed, _ => failed

def accepts : NumeralState → Bool
  | whole | fraction | exponentDigits => true
  | _ => false

end NumeralState

/-- Whether a text is a number that can be written bare. -/
def isNumeral (text : String) : Bool :=
  (text.toList.foldl NumeralState.step .start).accepts

namespace Profile

def writeBoolean (p : Profile) (value : Bool) : String :=
  if p.booleanValues then (if value then "TRUE" else "FALSE") else if value then "1" else "0"

def writeTypedLiteral (p : Profile) (type : DataType) (value : String) : Fragment :=
  let quoted := p.quoteLiteral value
  let bare := Text.trim value
  if type.isNumeric then
    if isNumeral bare then .exact bare else .approximate quoted (.notNumeric value)
  else if type.isTemporal then
    match p.writeCast (.engine type) quoted with
    | .exact sql => .exact sql
    | _ => .exact quoted
  else if type = .boolean then
    match bare.toLower with
    | "true" => .exact (p.writeBoolean true)
    | "false" => .exact (p.writeBoolean false)
    | _ => .approximate quoted (.notBoolean value)
  else .exact quoted

def writeCoalesce (_ : Profile) (e fallback : String) : String :=
  "COALESCE(" ++ e ++ ", " ++ fallback ++ ")"

def writeNullFlag (p : Profile) (e : String) : String :=
  if p.booleanValues then "(" ++ e ++ " IS NULL)"
  else "CASE WHEN " ++ e ++ " IS NULL THEN 1 ELSE 0 END"

def writeNotNull (_ : Profile) (e : String) : String := e ++ " IS NOT NULL"

def writeCase (p : Profile) (c : ConditionalCase) : String :=
  " WHEN " ++ Text.trim c.condition ++ " THEN " ++ p.quoteLiteral c.result

/-- Conditions are written as they stand and results as literals, in their order. -/
def writeCases (p : Profile) (cases : List ConditionalCase) (otherwise : String) : String :=
  "CASE" ++ String.join (cases.map p.writeCase) ++ " ELSE " ++ otherwise ++ " END"

end Profile

end CleanSql
