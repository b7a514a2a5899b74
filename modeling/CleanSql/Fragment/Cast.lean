import CleanSql.Fragment.Basic
import CleanSql.Text.Basic

/-!
# Casts

A cast asks for a type of the engine, by any of its usual names, or for a type of the dialect
that is written as it stands. The second is let through only if it is a plain type name: words,
and one or two numbers in parentheses.
-/
namespace CleanSql

/-- A type by any of its usual names, whatever the case of their letters. -/
def DataType.ofCastName? (name : String) : Option DataType :=
  match (Text.trim name).toLower with
  | "string" | "text" | "str" => some .string
  | "integer" | "int" | "bigint" => some .integer
  | "float" | "double" | "real" => some .float
  | "boolean" | "bool" => some .boolean
  | "date" => some .date
  | "timestamp" | "datetime" => some .timestamp
  | "json" => some .json
  | _ => none

inductive TypeNameState where
  | start
  | word
  /-- Blanks after a word. -/
  | gap
  /-- The parenthesis is open and its first number is due. -/
  | opened
  | first
  | firstGap
  /-- The second number is due. -/
  | comma
  | second
  | secondGap
  | closed
  | failed
  deriving DecidableEq, Repr

namespace TypeNameState

def step : TypeNameState → Char → TypeNameState
  | start, c => if c.isAlpha then word else failed
  | word, c =>
    if c.isAlphanum || c == '_' then word
    else if Text.isBlank c then gap
    else if c == '(' then opened
    else failed
  | gap, c =>
    if Text.isBlank c then gap else if c.isAlpha then word else if c == '(' then opened else failed
  | opened, c =>
    if Text.isBlank c then opened else if Text.isDecimalDigit c then first else failed
  | first, c =>
    if Text.isDecimalDigit c then first
    else if Text.isBlank c then firstGap
    else if c == ',' then comma
    else if c == ')' then closed
    else failed
  | firstGap, c =>
    if Text.isBlank c then firstGap
    else if c == ',' then comma
    else if c == ')' then closed
    else failed
  | comma, c =>
    if Text.isBlank c then comma else if Text.isDecimalDigit c then second else failed
  | second, c =>
    if Text.isDecimalDigit c then second
    else if Text.isBlank c then secondGap
    else if c == ')' then closed
    else failed
  | secondGap, c => if Text.isBlank c then secondGap else if c == ')' then closed else failed
  | closed, _ => failed
  | failed, _ => failed

def accepts : TypeNameState → Bool
  | word | closed => true
  | _ => false

end TypeNameState

/-- Whether a text is a plain type name, such as `DOUBLE PRECISION` or `DECIMAL(10, 2)`. -/
def isTypeName (text : String) : Bool :=
  (text.toList.foldl TypeNameState.step .start).accepts

inductive CastRequest where
  | engine (type : DataType)
  /-- A type of the dialect, written as it stands. -/
  | verbatim (name : String)
  deriving DecidableEq, Repr

inductive CastReading where
  | absent
  | request (request : CastRequest)
  | unreadable (text : String)
  deriving DecidableEq, Repr

def CastReading.of (text : String) : CastReading :=
  let name := Text.trim text
  if name = "" then .absent
  else
    match DataType.ofCastName? name with
    | some type => .request (.engine type)
    | none => if isTypeName name then .request (.verbatim name) else .unreadable name

namespace Profile

def writeCastTo (p : Profile) (type e : String) : String :=
  match p.castStyle with
  | .function => "CAST(" ++ e ++ " AS " ++ type ++ ")"
  | .doubleColon => "(" ++ e ++ ")::" ++ type

def writeCast (p : Profile) (request : CastRequest) (e : String) : Fragment :=
  match request with
  | .verbatim name => .exact (p.writeCastTo (Text.trim name) e)
  | .engine type =>
    match p.castTarget type with
    | .type name => .exact (p.writeCastTo name e)
    | .function name => .exact (name ++ "(" ++ e ++ ")")
    | .unsupported => .unsupported (.noCast type p.dialect)

end Profile

end CleanSql
