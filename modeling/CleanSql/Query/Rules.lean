import CleanSql.Dialect.Profile
import CleanSql.Text.Basic

/-!
# Rules of SQL dialects for readers

In what the dialects differ when a query is read back.
-/
namespace CleanSql.Query

/-- How words, names and texts are told apart, and what a clause may hold. -/
structure Rules where
  /-- The quotes that open a name. A double quote that does not opens a text. -/
  nameQuotes : List Char
  isWordStart : Char → Bool
  isWordPart : Char → Bool
  /-- Whether a word may start with digits. -/
  digitWords : Bool := false
  /-- Whether a backslash escapes the character behind it. -/
  backslash : Bool := false
  /-- The characters whose escapes are kept as they are. -/
  keptEscapes : List Char := []
  /-- Whether three quotes open a text that three quotes close. -/
  tripleQuotes : Bool := false
  /-- The letters that mark other kinds of text literals. -/
  marks : List Char
  /-- The marks whose texts have escapes. -/
  escapeMarks : List Char := []
  hashComments : Bool := false
  slashComments : Bool := false
  /-- Whether two dashes need a blank behind them to start a comment. -/
  dashCommentsNeedBlank : Bool := false
  /-- Whether texts that stand side by side are one text. -/
  joinsTexts : Bool := false
  booleans : Bool := true
  /-- Whether a colon goes into a document. -/
  documentPaths : Bool := false
  /-- Whether a function may be given a query without further parentheses. -/
  queryArguments : Bool := false
  /-- Whether nothing needs to be selected. -/
  emptySelect : Bool := false
  /-- Whether a comma may end any list, or the list of what is selected. -/
  trailingCommas : Bool := false
  selectTrailingCommas : Bool := false
  /-- The words that are no name of a selected value unless `AS` stands before them. -/
  noColumnName : List String
  /-- The words that are no name of a table unless `AS` stands before them. -/
  noTableName : List String
  /-- Whether a lone table may stand in parentheses. -/
  loneTableInParentheses : Bool := false
  /-- Whether the characters to trim may follow a comma. -/
  trimList : Bool := false
  /-- The words that cannot be read as names where they start something else. -/
  noName : List String := ["EXISTS", "INTERVAL", "STRUCT", "TRIM"]

namespace Rules

def columnStops : List String :=
  ["WITH", "EXPLAIN", "ANALYZE", "SELECT", "WHERE", "GROUP", "SORT", "HAVING", "ORDER", "TOP",
    "LATERAL", "VIEW", "LIMIT", "OFFSET", "FETCH", "UNION", "EXCEPT", "EXCLUDE", "INTERSECT",
    "MINUS", "CLUSTER", "DISTRIBUTE", "RETURNING", "FROM", "INTO", "END"]

def tableStops : List String :=
  ["WITH", "EXPLAIN", "ANALYZE", "SELECT", "WHERE", "GROUP", "SORT", "HAVING", "ORDER", "PIVOT",
    "UNPIVOT", "TOP", "LATERAL", "VIEW", "LIMIT", "OFFSET", "FETCH", "UNION", "EXCEPT",
    "INTERSECT", "MINUS", "ON", "JOIN", "INNER", "CROSS", "FULL", "LEFT", "RIGHT", "NATURAL",
    "USING", "CLUSTER", "DISTRIBUTE", "GLOBAL", "ANTI", "SEMI", "RETURNING", "OUTPUT", "ASOF",
    "MATCH_CONDITION", "OUTER", "SET", "QUALIFY", "WINDOW", "END", "FOR", "PARTITION", "PREWHERE",
    "SETTINGS", "FORMAT", "START", "CONNECT", "MATCH_RECOGNIZE", "SAMPLE", "TABLESAMPLE", "FROM",
    "OPEN"]

def isUnderscore (c : Char) : Bool := c = '_'

/-- A letter, as far as it is told from its code: all beyond ASCII count. -/
def isWideLetter (c : Char) : Bool := c.isAlpha || c.toNat ≥ 0x80

def ansi : Rules where
  nameQuotes := ['"', '\x60']
  isWordStart := Char.isAlpha
  isWordPart c := c.isAlphanum || isUnderscore c
  marks := ['N', 'X']
  noColumnName := columnStops
  noTableName := tableStops

def snowflake : Rules where
  nameQuotes := ['"', '\x60']
  isWordStart c := c.isAlpha || isUnderscore c
  isWordPart c := c.isAlphanum || isUnderscore c || c = '$'
  backslash := true
  marks := ['N', 'X']
  hashComments := true
  slashComments := true
  selectTrailingCommas := true
  documentPaths := true
  queryArguments := true
  noName := ["EXISTS", "STRUCT", "TRIM"]
  noColumnName :=
    ["FROM", "GROUP", "HAVING", "INTERSECT", "INTO", "MINUS", "ORDER", "SELECT", "UNION", "WHERE",
      "WITH", "LIMIT", "OFFSET", "FETCH", "EXCEPT", "RETURNING"]
  noTableName := tableStops
  loneTableInParentheses := true
  trimList := true

def spark : Rules where
  nameQuotes := ['\x60']
  isWordStart c := c.isAlpha || isUnderscore c
  isWordPart c := c.isAlphanum || isUnderscore c
  marks := ['N', 'X']
  noColumnName := columnStops
  noTableName := tableStops

def bigquery : Rules where
  nameQuotes := ['\x60']
  isWordStart c := c.isAlpha || isUnderscore c || c = '@'
  isWordPart c := c.isAlphanum || isUnderscore c
  backslash := true
  tripleQuotes := true
  marks := ['N', 'X', 'B', 'R']
  hashComments := true
  trailingCommas := true
  noColumnName :=
    ["WITH", "SELECT", "WHERE", "GROUP", "HAVING", "ORDER", "LATERAL", "LIMIT", "FETCH", "UNION",
      "EXCEPT", "INTERSECT", "FROM", "INTO", "END"]
  noTableName := tableStops
  trimList := true

def tsql : Rules where
  nameQuotes := ['"', '[']
  isWordStart c := isWideLetter c || isUnderscore c || c = '#' || c = '@'
  isWordPart c := isWideLetter c || c.isDigit || isUnderscore c || c = '#' || c = '@' || c = '$'
  marks := ['N', 'X']
  booleans := false
  noColumnName := columnStops ++ ["IF", "ELSE"]
  noTableName := tableStops ++ ["IF", "ELSE"]

def mysql : Rules where
  nameQuotes := ['\x60']
  isWordStart c := isWideLetter c || isUnderscore c || c = '@' || c = '$'
  isWordPart c := isWideLetter c || c.isDigit || isUnderscore c || c = '@' || c = '$'
  digitWords := true
  backslash := true
  keptEscapes := ['%', '_']
  marks := ['N', 'X', 'B']
  hashComments := true
  dashCommentsNeedBlank := true
  joinsTexts := true
  noColumnName := columnStops
  noTableName := tableStops ++ ["USE", "IGNORE", "FORCE", "STRAIGHT_JOIN"]

def postgresql : Rules where
  nameQuotes := ['"']
  isWordStart c := isWideLetter c || isUnderscore c
  isWordPart c := isWideLetter c || c.isDigit || isUnderscore c || c = '$'
  marks := ['N', 'X', 'B', 'E']
  escapeMarks := ['E']
  emptySelect := true
  noColumnName := columnStops
  noTableName := tableStops
  noName := ["EXISTS", "STRUCT", "TRIM"]

def of : Dialect → Rules
  | .snowflake => snowflake
  | .spark => spark
  | .bigquery => bigquery
  | .tsql => tsql
  | .mysql => mysql
  | .postgresql => postgresql
  | .ansi => ansi

end Rules

end CleanSql.Query
