import CleanSql.Table.Basic
import CleanSql.Text.Basic

/-!
# What a dialect writes

One record per dialect: how it quotes, which functions it calls, and what it cannot say. All
that is written for a dialect is written from its record, and so is its row of the capability
matrix.
-/
namespace CleanSql

inductive Dialect where
  | snowflake | spark | bigquery | tsql | mysql | postgresql | ansi
  deriving DecidableEq, Repr, Inhabited

namespace Dialect

def all : List Dialect := [.snowflake, .spark, .bigquery, .tsql, .mysql, .postgresql, .ansi]

theorem mem_all (d : Dialect) : d ∈ all := by cases d <;> decide

def name : Dialect → String
  | snowflake => "snowflake_sql"
  | spark => "spark_sql"
  | bigquery => "bigquery_sql"
  | tsql => "tsql"
  | mysql => "mysql"
  | postgresql => "postgresql"
  | ansi => "ansi"

/-- The dialect of a name, whatever the case of its ASCII letters and the blanks around it. -/
def ofName? (s : String) : Option Dialect :=
  all.find? fun d => d.name == (Text.trim s).toLower

end Dialect

/-- The quotes of an identifier; its closing one is doubled inside. -/
inductive IdentifierQuote where
  | doubleQuote | backtick | bracket
  deriving DecidableEq, Repr

/-- What has to be escaped inside a string literal. -/
inductive LiteralEscape where
  /-- A quote is doubled and a backslash is a character like any other. -/
  | doubled
  /-- A quote and a backslash are doubled. -/
  | doubledWithBackslash
  /-- A quote, a backslash and the ends of lines follow a backslash. -/
  | backslash
  deriving DecidableEq, Repr

inductive TrimForm where
  | function (name : String)
  | nested (outer inner : String)
  deriving DecidableEq, Repr

/-- A table function that lists the words of a text. -/
inductive WordRows where
  | stringSplit | jsonTable
  deriving DecidableEq, Repr

inductive TitleCaseForm where
  | function (name : String)
  | perWord (rows : WordRows)
  /-- Only the first character of the whole value can be reached. -/
  | firstCharacter
  deriving DecidableEq, Repr

/-- The function that replaces the matches of a pattern, with what follows its arguments. -/
inductive RegexForm where
  | unsupported
  | function (name trailing : String)
  deriving DecidableEq, Repr

inductive CastStyle where
  | function | doubleColon
  deriving DecidableEq, Repr

inductive CastTarget where
  | type (name : String)
  /-- A function call takes the place of the cast. -/
  | function (name : String)
  | unsupported
  deriving DecidableEq, Repr

/-- The number of the first part of a split text. -/
inductive IndexBase where
  | zero | one
  deriving DecidableEq, Repr

/-- A part counted from zero, in a count from this base; none above the largest index. -/
def IndexBase.native? : IndexBase → UInt64 → Option UInt64
  | zero, i => some i
  | one, i => if i.toNat + 1 < UInt64.size then some (i + 1) else none

inductive SplitForm where
  /-- A function of the text, the delimiter and the number of the part. -/
  | part (name : String)
  /-- An array of the parts between matches of a regular expression. -/
  | regexArray (name : String)
  /-- An array whose elements are null beyond its end. -/
  | safeArray (name : String)
  /-- The last part of the first so many. -/
  | substringIndex
  | unsupported
  deriving DecidableEq, Repr

def SplitForm.base? : SplitForm → Option IndexBase
  | part _ | substringIndex => some .one
  | regexArray _ | safeArray _ => some .zero
  | unsupported => none

/-- How the first character and the rest are cut off. -/
inductive SubstringForm where
  | fromFor
  | positional
  /-- The length has to be given and is measured by a function. -/
  | withLength (measure : String)
  deriving DecidableEq, Repr

inductive ConcatForm where
  | operator (symbol : String)
  | function (name : String)
  deriving DecidableEq, Repr

/-- All that is known of one dialect. -/
structure Profile where
  dialect : Dialect
  identifierQuote : IdentifierQuote
  literalEscape : LiteralEscape
  trim : TrimForm
  titleCase : TitleCaseForm
  regex : RegexForm
  castStyle : CastStyle
  castTarget : DataType → CastTarget
  split : SplitForm
  substring : SubstringForm
  concat : ConcatForm
  /-- Whether a predicate is a value that can be selected. -/
  booleanValues : Bool

namespace Profile

def snowflake : Profile where
  dialect := .snowflake
  identifierQuote := .doubleQuote
  literalEscape := .doubledWithBackslash
  trim := .function "TRIM"
  titleCase := .function "INITCAP"
  regex := .function "REGEXP_REPLACE" ""
  castStyle := .function
  castTarget
    | .string => .type "VARCHAR"
    | .integer => .type "INTEGER"
    | .float => .type "FLOAT"
    | .boolean => .type "BOOLEAN"
    | .date => .type "DATE"
    | .timestamp => .type "TIMESTAMP_NTZ"
    | .json => .function "PARSE_JSON"
  split := .part "SPLIT_PART"
  substring := .positional
  concat := .operator "||"
  booleanValues := true

def spark : Profile where
  dialect := .spark
  identifierQuote := .backtick
  literalEscape := .backslash
  trim := .function "TRIM"
  titleCase := .function "INITCAP"
  regex := .function "REGEXP_REPLACE" ""
  castStyle := .function
  castTarget
    | .string => .type "STRING"
    | .integer => .type "BIGINT"
    | .float => .type "DOUBLE"
    | .boolean => .type "BOOLEAN"
    | .date => .type "DATE"
    | .timestamp => .type "TIMESTAMP"
    | .json => .unsupported
  split := .regexArray "SPLIT"
  substring := .positional
  concat := .function "CONCAT"
  booleanValues := true

def bigquery : Profile where
  dialect := .bigquery
  identifierQuote := .backtick
  literalEscape := .backslash
  trim := .function "TRIM"
  titleCase := .function "INITCAP"
  regex := .function "REGEXP_REPLACE" ""
  castStyle := .function
  castTarget
    | .string => .type "STRING"
    | .integer => .type "INT64"
    | .float => .type "FLOAT64"
    | .boolean => .type "BOOL"
    | .date => .type "DATE"
    | .timestamp => .type "TIMESTAMP"
    | .json => .function "PARSE_JSON"
  split := .safeArray "SPLIT"
  substring := .positional
  concat := .operator "||"
  booleanValues := true

def tsql : Profile where
  dialect := .tsql
  identifierQuote := .bracket
  literalEscape := .doubled
  trim := .nested "LTRIM" "RTRIM"
  titleCase := .perWord .stringSplit
  regex := .unsupported
  castStyle := .function
  castTarget
    | .string => .type "NVARCHAR(MAX)"
    | .integer => .type "BIGINT"
    | .float => .type "FLOAT"
    | .boolean => .type "BIT"
    | .date => .type "DATE"
    | .timestamp => .type "DATETIME2"
    | .json => .unsupported
  split := .unsupported
  substring := .withLength "LEN"
  concat := .operator "+"
  booleanValues := false

def mysql : Profile where
  dialect := .mysql
  identifierQuote := .backtick
  literalEscape := .doubledWithBackslash
  trim := .function "TRIM"
  titleCase := .perWord .jsonTable
  regex := .function "REGEXP_REPLACE" ""
  castStyle := .function
  castTarget
    | .string => .type "CHAR"
    | .integer => .type "SIGNED"
    | .float => .type "DOUBLE"
    | .boolean => .unsupported
    | .date => .type "DATE"
    | .timestamp => .type "DATETIME"
    | .json => .type "JSON"
  split := .substringIndex
  substring := .positional
  concat := .function "CONCAT"
  booleanValues := true

def postgresql : Profile where
  dialect := .postgresql
  identifierQuote := .doubleQuote
  literalEscape := .doubled
  trim := .function "TRIM"
  titleCase := .function "INITCAP"
  regex := .function "REGEXP_REPLACE" ", 'g'"
  castStyle := .doubleColon
  castTarget
    | .string => .type "TEXT"
    | .integer => .type "BIGINT"
    | .float => .type "DOUBLE PRECISION"
    | .boolean => .type "BOOLEAN"
    | .date => .type "DATE"
    | .timestamp => .type "TIMESTAMP"
    | .json => .type "JSONB"
  split := .part "SPLIT_PART"
  substring := .positional
  concat := .operator "||"
  booleanValues := true

def ansi : Profile where
  dialect := .ansi
  identifierQuote := .doubleQuote
  literalEscape := .doubled
  trim := .function "TRIM"
  titleCase := .firstCharacter
  regex := .unsupported
  castStyle := .function
  castTarget
    | .string => .type "VARCHAR"
    | .integer => .type "INTEGER"
    | .float => .type "FLOAT"
    | .boolean => .type "BOOLEAN"
    | .date => .type "DATE"
    | .timestamp => .type "TIMESTAMP"
    | .json => .unsupported
  split := .unsupported
  substring := .fromFor
  concat := .operator "||"
  booleanValues := true

end Profile

def Dialect.profile : Dialect → Profile
  | snowflake => .snowflake
  | spark => .spark
  | bigquery => .bigquery
  | tsql => .tsql
  | mysql => .mysql
  | postgresql => .postgresql
  | ansi => .ansi

structure Capabilities where
  dialect : Dialect
  regexReplace : Bool
  nativeTitleCase : Bool
  /-- Every word gets its capital, by a function of the dialect or over rows of words. -/
  perWordTitleCase : Bool
  splitBase : Option IndexBase
  castShorthand : Bool
  unsupportedCasts : List DataType
  deriving DecidableEq, Repr

def Capabilities.split (c : Capabilities) : Bool := c.splitBase.isSome

def Profile.capabilities (p : Profile) : Capabilities where
  dialect := p.dialect
  regexReplace := p.regex ≠ .unsupported
  nativeTitleCase := match p.titleCase with
    | .function _ => true
    | _ => false
  perWordTitleCase := p.titleCase ≠ .firstCharacter
  splitBase := p.split.base?
  castShorthand := p.castStyle = .doubleColon
  unsupportedCasts := DataType.all.filter fun t => p.castTarget t = .unsupported

end CleanSql
