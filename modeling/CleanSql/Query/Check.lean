import CleanSql.Query.Expression
import CleanSql.Query.Lexer

/-!
# Queries

The grammar of queries, and whole texts that are read back by it.
-/
namespace CleanSql.Query

namespace Grammar

variable (g : Grammar)

/-- A name of what stands before it, which needs no `AS` unless it is one of certain words. -/
def alias? (stops : List String) : Reader Bool := do
  let explicit ← keyword? "AS"
  match ← nextToken with
  | some t@(.word _ _) =>
    if explicit || !t.keyword?.any stops.contains then advance; pure true else pure false
  | some (.text _) | some (.doubleQuoted _) => advance; pure true
  | _ => if explicit then expected "an identifier after AS" else pure false

/-- The points, names and star behind the first name of a list of all columns; tells whether there
is a star. -/
def qualifiedStar : Nat → Reader Bool
  | 0 => pure false
  | n + 1 => do
    if ← symbol? "." then
      match ← nextToken with
      | some (.word _ _) | some (.text _) => do
        advance
        qualifiedStar n
      | some (.symbol "*") => advance; pure true
      | _ => expected "an identifier or a '*' after '.'"
    else pure false

/-- All columns, of one table or of all; otherwise nothing is taken. -/
def star? : Reader Bool := do
  let before ← get
  if ← symbol? "*" then pure true
  else if (← seesSymbol "(") && (← seesSymbol "*" 1) && (← seesSymbol ")" 2) then
    set (before.drop 3)
    pure true
  else if ← seesSymbol "." 1 then
    match ← nextToken with
    | some (.word _ _) | some (.text _) => do
      advance
      if ← qualifiedStar before.length then pure true
      else
        set before
        pure false
    | _ => pure false
  else pure false

def item : Reader Item := do
  if ← star? then pure ⟨.everything, false⟩
  else
    let v ← g.anyValue
    match v with
    | .name text false =>
      if text.toLower = "from" then throw (.strayFrom text (← peek))
      else pure ⟨v, ← alias? g.rules.noColumnName⟩
    | _ => pure ⟨v, ← alias? g.rules.noColumnName⟩

def items : Reader (List Item) := do
  if g.rules.emptySelect && (← seesKeyword ["FROM"]) then pure []
  else
    separated (g.rules.trailingCommas || g.rules.selectTrailingCommas) g.rules.noColumnName g.item
      (← get).length

def top : Reader Unit := do
  if ← keyword? "TOP" then
    if ← seesSymbol "(" then parenthesized g.someValue else literalInteger
    let _ ← keyword? "PERCENT"
    let _ ← phrase? ["WITH", "TIES"]

def distinct : Reader Unit := do
  if ← keyword? "ALL" then pure ()
  else if ← keyword? "DISTINCT" then
    if ← keyword? "ON" then parenthesized g.values

def tableAlias : Reader Unit := do
  if ← alias? g.rules.noTableName then
    if ← seesSymbol "(" then
      parenthesized do
        let _ ← commaList g.rules do
          identifier
          if (← seesSymbol ",") || (← seesSymbol ")") then pure () else let _ ← typeName

def documentColumn : Reader Unit := do
  identifier
  if ← keyword? "FOR" then keyword "ORDINALITY"
  else
    let _ ← typeName
    let _ ← keyword? "EXISTS"
    keyword "PATH"
    let _ ← g.literal

/-- The rows of a document, behind the name of the function. -/
def documentRows : Reader Unit :=
  parenthesized do
    g.someValue
    symbol ","
    let _ ← g.literal
    keyword "COLUMNS"
    parenthesized do let _ ← commaList g.rules g.documentColumn

def derivedTable : Reader Unit := do
  let _ ← g.query
  symbol ")"
  g.tableAlias

def nestedTables : Reader Unit := do
  let joined ← g.tables
  if joined || g.rules.loneTableInParentheses then
    symbol ")"
    g.tableAlias
  else expected "joined table"

def namedTable : Reader Unit := do
  qualifiedName
  if ← seesSymbol "(" then parenthesized g.arguments
  let _ ← phrase? ["WITH", "ORDINALITY"]
  g.tableAlias
  if ← seesSymbol "(" 1 then
    if ← keyword? "WITH" then parenthesized g.values

/-- One table; tells whether it is several in parentheses. -/
def table : Reader Bool := do
  let _ ← keyword? "LATERAL"
  if ← symbol? "(" then
    if (← attempt g.derivedTable).isSome then pure false
    else
      g.nestedTables
      pure true
  else if (← seesKeyword ["JSON_TABLE"]) && (← seesSymbol "(" 1) then
    advance
    g.documentRows
    g.tableAlias
    pure false
  else if (← seesKeyword ["TABLE", "UNNEST"]) && (← seesSymbol "(" 1) then
    advance
    parenthesized g.values
    g.tableAlias
    pure false
  else
    g.namedTable
    pure false

def joinWords : Reader Bool := do
  if ← phrase? ["CROSS", "JOIN"] then pure true
  else if ← phrase? ["CROSS", "APPLY"] then pure true
  else if ← phrase? ["OUTER", "APPLY"] then pure true
  else
    let natural ← keyword? "NATURAL"
    if ← keyword? "JOIN" then pure true
    else if ← keyword? "INNER" then
      keyword "JOIN"
      pure true
    else if ← oneOf? ["LEFT", "RIGHT", "FULL"] then
      let _ ← oneOf? ["OUTER", "SEMI", "ANTI"]
      keyword "JOIN"
      pure true
    else if natural then expected "a join type after NATURAL"
    else pure false

def join : Reader Bool := do
  if ← joinWords then
    let _ ← g.table
    if ← keyword? "ON" then g.someValue
    else if ← keyword? "USING" then
      parenthesized do let _ ← commaList g.rules identifier
    pure true
  else pure false

/-- A table with what is joined to it; tells whether there is anything. -/
def joinedTables : Reader Bool := do
  let nested ← g.table
  let before ← get
  whileFound g.join
  pure (nested || (← get).length ≠ before.length)

def selection : Reader (List Item) := do
  g.distinct
  g.top
  let selected ← g.items
  if ← keyword? "INTO" then qualifiedName
  if ← keyword? "FROM" then let _ ← commaList g.rules g.tables
  if ← keyword? "WHERE" then g.someValue
  if ← phrase? ["GROUP", "BY"] then
    if ← keyword? "ALL" then pure () else g.values
  if ← keyword? "HAVING" then g.someValue
  if ← keyword? "QUALIFY" then g.someValue
  pure selected

def row : Reader Unit := do
  let _ ← keyword? "ROW"
  parenthesized g.values

/-- A query without operators between queries; gives what it selects if it is a plain one. -/
def simpleQuery : Reader (Option (List Item)) := do
  if ← keyword? "SELECT" then pure (some (← g.selection))
  else if ← symbol? "(" then
    let _ ← g.query
    symbol ")"
    pure none
  else if ← keyword? "VALUES" then
    let _ ← commaList g.rules g.row
    pure none
  else expected "SELECT, VALUES, or a subquery in the query body"

/-- A further query that is put together with one before it. -/
def furtherQuery : Reader Bool := do
  if ← oneOf? ["UNION", "EXCEPT", "INTERSECT", "MINUS"] then
    let _ ← oneOf? ["ALL", "DISTINCT"]
    let _ ← phrase? ["BY", "NAME"]
    let _ ← g.simpleQuery
    pure true
  else pure false

def namedQuery : Reader Unit := do
  identifier
  if ← symbol? "(" then
    let _ ← commaList g.rules identifier
    symbol ")"
  keyword "AS"
  if g.rules.emptySelect then
    let _ ← keyword? "MATERIALIZED"
    let _ ← phrase? ["NOT", "MATERIALIZED"]
  parenthesized do let _ ← g.query
  if ← keyword? "FROM" then identifier

def limit : Reader Bool := do
  if ← keyword? "LIMIT" then
    if ← keyword? "ALL" then pure ()
    else
      g.someValue
      if ← symbol? "," then g.someValue
    pure true
  else if ← keyword? "OFFSET" then
    g.someValue
    let _ ← oneOf? ["ROW", "ROWS"]
    pure true
  else pure false

/-- A query, and its select list if it has just one. -/
def nextQuery : Reader (Option (List Item)) := do
  if ← keyword? "WITH" then
    let _ ← keyword? "RECURSIVE"
    let _ ← commaList g.rules g.namedQuery
  let selected ← g.simpleQuery
  let before ← get
  whileFound g.furtherQuery
  let single := (← get).length = before.length
  if ← phrase? ["ORDER", "BY"] then g.sortKeys
  repeatWhile g.limit 2
  pure (if single then selected else none)

def statement : Reader (Option (List Item)) := do
  if (← seesKeyword ["SELECT", "WITH", "VALUES", "FROM"]) || (← seesSymbol "(") then g.query
  else expected "an SQL statement"

/-- Statements with semicolons between them, so many at most. Nothing behind a word `END` is
read. -/
def statements : Nat → Reader (List (Option (List Item)))
  | 0 => pure []
  | n + 1 => do
    whileFound (symbol? ";")
    if (← peek).isNone then pure []
    else
      let s ← g.statement
      if (← peek).isNone || (← seesKeyword ["END"]) then pure [s]
      else if ← seesSymbol ";" then pure (s :: (← statements n))
      else expected "end of statement"

def nested (r : Rules) : Nat → Grammar
  | 0 =>
    { rules := r
      value := fun _ => throw .tooDeep
      query := throw .tooDeep
      tables := throw .tooDeep }
  | n + 1 =>
    let inner := nested r n
    { rules := r, value := inner.nextValue, query := inner.nextQuery, tables := inner.joinedTables }

/-- How deep statements, queries and values may be nested in one another. -/
def depth : Nat := 50

/-- The grammar of a dialect, at a statement. -/
def of (r : Rules) : Grammar := nested r (depth - 1)

end Grammar

/-- The statements of a text, with what each selects if it is a plain query. -/
def read (d : Dialect) (query : String) : Except QueryFault (List (Option (List Item))) := do
  let r := Rules.of d
  let ts ← tokens r query
  let (statements, _) ← ((Grammar.of r).statements (ts.length + 1)).run ts
  pure statements

/-- What is wrong with a text, if it holds something else than queries. -/
def complaint (d : Dialect) (query : String) : Option String :=
  match read d query with
  | .ok _ => none
  | .error f => some f.message

/-- The value of a text literal as a dialect reads it; none for anything else. -/
def literalValue (d : Dialect) (literal : String) : Option String :=
  match read d ("SELECT " ++ literal) with
  | .ok [some [⟨.text value, false⟩]] => some value
  | _ => none

end CleanSql.Query
