import CleanSql.Query.TypeName

/-!
# Values

Values are read by levels: an operator is taken if it binds more tightly than what stands before
the value.
-/
namespace CleanSql.Query

/-- What a value is, as far as that matters. -/
inductive Value where
  | name (text : String) (quoted : Bool)
  | text (value : String)
  | everything
  | other
  deriving DecidableEq, Repr

structure Item where
  value : Value
  named : Bool
  deriving DecidableEq, Repr

/-- The rules of a dialect, with readers for all that may be nested. -/
structure Grammar where
  rules : Rules
  /-- A value whose operators bind more tightly than a level. -/
  value : Nat → Reader Value
  /-- A query, and its select list if it has just one. -/
  query : Reader (Option (List Item))
  /-- A table with what is joined to it; tells whether there is anything. -/
  tables : Reader Bool

/-- How tightly operators bind. -/
def notLevel : Nat := 15

def isLevel : Nat := 17

def likeLevel : Nat := 19

def equalLevel : Nat := 20

def productLevel : Nat := 40

def symbolLevel : String → Nat
  | "=" | "<" | "<=" | "<>" | ">" | ">=" | "==" | "<=>" | "~" | ":=" => equalLevel
  | "|" => 21
  | "^" | "#" | "<<" | ">>" => 22
  | "&" => 23
  | "+" | "-" => 30
  | "*" | "/" | "%" | "||" => productLevel
  | "::" | "&&" => 50
  | "->" | "->>" | "#>" | "#>>" | "@>" | "<@" => 16
  | _ => 0

def keywordLevel : String → Nat
  | "OR" => 5
  | "AND" => 10
  | "IS" => isLevel
  | "LIKE" | "ILIKE" | "SIMILAR" | "RLIKE" | "REGEXP" | "MEMBER" => likeLevel
  | "IN" | "BETWEEN" | "OVERLAPS" => equalLevel
  | "XOR" => 24
  | "COLLATE" => 42
  | _ => 0

/-- How tightly the next token binds; zero if it is no operator. -/
def operatorLevel : Reader Nat := do
  let ts ← get
  match ts.map PlacedToken.token with
  | .symbol s :: _ => pure (symbolLevel s)
  | t :: rest =>
    match t.keyword? with
    | some "AT" =>
      pure (match rest.map Token.keyword? with
        | some "TIME" :: some "ZONE" :: _ => 41
        | _ => 0)
    | some "NOT" =>
      pure (match rest.head?.bind Token.keyword? with
        | some k => if k = "NULL" then isLevel else keywordLevel k
        | none => 0)
    | some k => pure (keywordLevel k)
    | none => pure 0
  | [] => pure 0

namespace Grammar

variable (g : Grammar)

def anyValue : Reader Value := g.value 0

def someValue : Reader Unit := do let _ ← g.anyValue

def values : Reader Unit := do let _ ← commaList g.rules g.anyValue

/-- Texts that stand behind a text and belong to it, so many at most. -/
def joinedTexts : Nat → Reader String
  | 0 => pure ""
  | n + 1 => do
    match ← nextToken with
    | some (.text v) | some (.doubleQuoted v) => do
      advance
      pure (v ++ (← joinedTexts n))
    | _ => pure ""

def moreText : Reader String := do
  if g.rules.joinsTexts then joinedTexts (← get).length else pure ""

def literal : Reader Value := do
  match ← nextToken with
  | some (.number _) | some (.marked _ _) => advance; pure .other
  | some (.doubleQuoted _) => do
    advance
    let _ ← g.moreText
    pure .other
  | some (.text v) => do
    advance
    pure (.text (v ++ (← g.moreText)))
  | _ =>
    if ← oneOf? (if g.rules.booleans then ["NULL", "TRUE", "FALSE"] else ["NULL"]) then pure .other
    else expected "a concrete value"

def sortKey : Reader Unit := do
  g.someValue
  let _ ← oneOf? ["ASC", "DESC"]
  if ← keyword? "NULLS" then
    if ← oneOf? ["FIRST", "LAST"] then pure () else expected "FIRST or LAST"

def sortKeys : Reader Unit := do let _ ← commaList g.rules g.sortKey

def parenthesized (read : Reader Unit) : Reader Unit := do
  symbol "("
  read
  symbol ")"

def queryOr (read : Reader Unit) : Reader Unit := do
  if ← seesKeyword ["SELECT", "WITH"] then let _ ← g.query else read

def frameEnd : Reader Unit := do
  if ← phrase? ["CURRENT", "ROW"] then pure ()
  else
    if ← keyword? "UNBOUNDED" then pure () else g.someValue
    if ← oneOf? ["PRECEDING", "FOLLOWING"] then pure () else expected "FOLLOWING"

def window : Reader Unit := do
  if ← phrase? ["PARTITION", "BY"] then g.values
  if ← phrase? ["ORDER", "BY"] then g.sortKeys
  if ← oneOf? ["ROWS", "RANGE", "GROUPS"] then
    if ← keyword? "BETWEEN" then
      g.frameEnd
      keyword "AND"
      g.frameEnd
    else g.frameEnd

def argument : Reader Unit := do
  if ← symbol? "*" then pure ()
  else
    if ← seesSymbol "=>" 1 then
      identifier
      symbol "=>"
    g.someValue

/-- What a function is given, with what may stand behind it. -/
def arguments : Reader Unit := do
  if ← seesSymbol ")" then pure ()
  else if g.rules.queryArguments && (← seesKeyword ["SELECT", "WITH"]) then let _ ← g.query
  else
    let _ ← oneOf? ["DISTINCT", "ALL"]
    let _ ← commaList g.rules g.argument
    let _ ← phrase? ["IGNORE", "NULLS"]
    if ← phrase? ["ORDER", "BY"] then g.sortKeys
    if ← keyword? "LIMIT" then g.someValue
    if ← keyword? "SEPARATOR" then let _ ← g.literal

def call : Reader Unit := do
  parenthesized g.arguments
  if ← phrase? ["WITHIN", "GROUP"] then
    parenthesized do
      phrase ["ORDER", "BY"]
      g.sortKeys
  if ← seesSymbol "(" 1 then
    if ← keyword? "FILTER" then
      parenthesized do
        keyword "WHERE"
        g.someValue
  if ← phrase? ["RESPECT", "NULLS"] then pure () else let _ ← phrase? ["IGNORE", "NULLS"]
  if ← keyword? "OVER" then
    if ← seesSymbol "(" then parenthesized g.window else identifier

def cases : Nat → Reader Unit
  | 0 => pure ()
  | n + 1 => do
    g.someValue
    keyword "THEN"
    g.someValue
    if ← keyword? "WHEN" then cases n

def caseValue : Reader Unit := do
  if ← keyword? "WHEN" then pure ()
  else
    g.someValue
    keyword "WHEN"
  g.cases (← get).length
  if ← keyword? "ELSE" then g.someValue
  keyword "END"

def castValue : Reader Unit :=
  parenthesized do
    g.someValue
    keyword "AS"
    let _ ← typeName

def substringValue : Reader Unit :=
  parenthesized do
    g.someValue
    if ← symbol? "," then g.someValue else if ← keyword? "FROM" then g.someValue
    if ← keyword? "FOR" then g.someValue else if ← symbol? "," then g.someValue

def trimValue : Reader Unit :=
  parenthesized do
    let _ ← oneOf? ["BOTH", "LEADING", "TRAILING"]
    g.someValue
    if ← keyword? "FROM" then g.someValue
    else if g.rules.trimList then if ← symbol? "," then g.values

def extractValue : Reader Unit :=
  parenthesized do
    identifier
    if ← symbol? "," then g.someValue
    else
      keyword "FROM"
      g.someValue

def roundedValue : Reader Unit :=
  parenthesized do
    g.someValue
    if ← keyword? "TO" then identifier else if ← symbol? "," then let _ ← g.literal

def positionValue : Reader Unit :=
  parenthesized do
    let _ ← g.value equalLevel
    keyword "IN"
    g.someValue

def existsValue : Reader Unit := parenthesized do let _ ← g.query

def intervalValue : Reader Unit := do
  let _ ← g.value productLevel
  let _ ← oneOf? ["YEAR", "QUARTER", "MONTH", "WEEK", "DAY", "HOUR", "MINUTE", "SECOND",
    "MILLISECOND", "MICROSECOND", "NANOSECOND"]
  if ← keyword? "TO" then identifier

def listValue : Reader Unit := do
  if ← seesSymbol "]" then pure () else g.values
  symbol "]"

/-- What a keyword starts, if it starts a value of its own kind. -/
def special? (ahead : List PlacedToken) : String → Option (Reader Unit)
  | "NULL" => some (pure ())
  | "TRUE" | "FALSE" => if g.rules.booleans then some (pure ()) else none
  | "CURRENT_TIMESTAMP" | "CURRENT_TIME" | "CURRENT_DATE" | "LOCALTIME" | "LOCALTIMESTAMP" =>
    some do if ← seesSymbol "(" then parenthesized g.arguments
  | "CASE" => some g.caseValue
  | "CAST" | "TRY_CAST" | "SAFE_CAST" => some g.castValue
  | "SUBSTRING" | "SUBSTR" => some g.substringValue
  | "TRIM" => some g.trimValue
  | "EXTRACT" => some g.extractValue
  | "CEIL" | "FLOOR" => some g.roundedValue
  | "POSITION" => if ahead.head?.any (isSymbol "(") then some g.positionValue else none
  | "EXISTS" => some g.existsValue
  | "INTERVAL" => some g.intervalValue
  | "ARRAY" => if ahead.head?.any (isSymbol "[") then some do symbol "["; g.listValue else none
  | "NOT" => some do let _ ← g.value notLevel
  | _ => none

/-- A word that is a name, or the name of a function. -/
def plainWord (text : String) (quoted : Bool) : Reader Value := do
  if ← seesSymbol "(" then
    g.call
    pure .other
  else pure (.name text quoted)

/-- What starts with a word, which has been taken. A keyword that starts nothing is a name. -/
def wordValue (text : String) (quote : Option Char) : Reader Value := do
  let ahead ← get
  match if quote.isNone then g.special? ahead text.toUpper else none with
  | none => g.plainWord text quote.isSome
  | some special =>
    let value : Reader Value := do special; pure .other
    if g.rules.noName.contains text.toUpper then value
    else orElse value (g.plainWord text quote.isSome)

def typedLiteral : Reader Unit := do
  if ← seesKeyword ["INTERVAL"] then
    advance
    g.intervalValue
  else if ← typeName then let _ ← g.literal
  else expected "a concrete value"

/-- Values in parentheses, behind the opening one: a query, one value, or several. -/
def nestedValue : Reader Unit := do
  g.queryOr g.values
  symbol ")"

def operand : Reader Value := do
  if (← attempt g.typedLiteral).isSome then pure .other
  else
    match ← nextToken with
    | some (.word text quote) => do
      advance
      g.wordValue text quote
    | some (.symbol "(") => do
      advance
      g.nestedValue
      pure .other
    | some (.symbol "[") => do
      advance
      g.listValue
      pure .other
    | some (.symbol "+") | some (.symbol "-") | some (.symbol "~") => do
      advance
      let _ ← g.value productLevel
      pure .other
    | some (.symbol _) | none => expected "an expression"
    | some _ => g.literal

/-- What follows a value at once: a point and a name, or an index in brackets. -/
def access : Reader Bool := do
  if g.rules.documentPaths && (← seesSymbol ":") then
    advance
    identifier
    pure true
  else if ← seesSymbol "." then
    if ← seesSymbol "*" 1 then pure false
    else
      advance
      identifier
      if ← seesSymbol "(" then g.call
      pure true
  else if ← symbol? "[" then
    g.someValue
    symbol "]"
    pure true
  else pure false

def accessed : Reader Value := do
  let v ← g.operand
  let before ← get
  whileFound g.access
  pure (if (← get).length = before.length then v else .other)

def isTail : Reader Unit := do
  let _ ← keyword? "NOT"
  if ← oneOf? ["NULL", "TRUE", "FALSE", "UNKNOWN"] then pure ()
  else if ← phrase? ["DISTINCT", "FROM"] then g.someValue
  else expected "[NOT] NULL | TRUE | FALSE | DISTINCT | [form] NORMALIZED FROM after IS"

def inTail : Reader Unit := parenthesized (g.queryOr g.values)

def betweenTail : Reader Unit := do
  let _ ← g.value equalLevel
  keyword "AND"
  let _ ← g.value equalLevel

def likeTail : Reader Unit := do
  let _ ← keyword? "ANY"
  let _ ← g.value likeLevel
  if ← keyword? "ESCAPE" then let _ ← g.literal

/-- A test on a value, behind `NOT` if there was one. -/
def testTail : Reader Unit := do
  if ← oneOf? ["REGEXP", "RLIKE"] then let _ ← g.value likeLevel
  else if ← keyword? "NULL" then pure ()
  else if ← keyword? "IN" then g.inTail
  else if ← keyword? "BETWEEN" then g.betweenTail
  else if ← oneOf? ["LIKE", "ILIKE"] then g.likeTail
  else if ← phrase? ["SIMILAR", "TO"] then g.likeTail
  else if ← phrase? ["MEMBER", "OF"] then parenthesized g.someValue
  else expected "IN or BETWEEN after NOT"

/-- The right side of an operator that was taken and binds at a level. -/
def rightSide (level : Nat) : Reader Unit := do
  if ← oneOf? ["ANY", "ALL", "SOME"] then
    parenthesized (g.queryOr do let _ ← g.value level)
  else let _ ← g.value level

/-- An operator that binds at a level, and what stands behind it. -/
def operatorTail (level : Nat) : Reader Unit := do
  if ← symbol? "::" then let _ ← typeName
  else if ← keyword? "IS" then g.isTail
  else if ← keyword? "COLLATE" then qualifiedName
  else if ← phrase? ["AT", "TIME", "ZONE"] then let _ ← g.value level
  else if ← keyword? "NOT" then g.testTail
  else if ← seesKeyword ["IN", "BETWEEN", "LIKE", "ILIKE", "SIMILAR", "REGEXP", "RLIKE", "MEMBER"]
  then g.testTail
  else
    advance
    g.rightSide level

/-- Takes operators, so many at most, that bind more tightly than a level. -/
def operators (level : Nat) : Nat → Value → Reader Value
  | 0, v => pure v
  | n + 1, v => do
    let next ← operatorLevel
    if next ≤ level then pure v
    else
      g.operatorTail next
      operators level n .other

/-- A value whose operators bind more tightly than a level. -/
def nextValue (level : Nat) : Reader Value := do
  let v ← g.accessed
  g.operators level (← get).length v

end Grammar

end CleanSql.Query
