import CleanSql.Number.Numeral
import CleanSql.Text.Basic
import CleanSql.Text.Search

/-!
# Failures

Why a run gives no report. A failure is known by its kind; its message says what went wrong, and
where, if the message of the reader behind it names a line and a column.
-/
namespace CleanSql

structure Position where
  line : Nat
  column : Nat
  deriving DecidableEq, Repr

namespace Position

/-- What may stand between a word and its number. -/
def isSeparator (c : Char) : Bool := c = ':' || c = ',' || Text.isBlank c

/-- A number of one word of memory, and the text behind it. -/
def number? (cs : List Char) : Option (Nat × List Char) :=
  (Number.natOfDigits? 10 (cs.takeWhile Char.isDigit)).bind fun n =>
    if n < UInt64.size then some (n, cs.dropWhile Char.isDigit) else none

/-- The number behind the first occurrence of a word. -/
def numberAfter? (word : String) (cs : List Char) : Option (Nat × List Char) :=
  (Text.after? word.toList cs).bind fun rest => number? (rest.dropWhile isSeparator)

/-- The place that a message names: a line and then a column, in letters of either case. -/
def of? (message : String) : Option Position := do
  let (line, rest) ← numberAfter? "line" message.toLower.toList
  let (column, _) ← numberAfter? "column" rest
  pure ⟨line, column⟩

end Position

inductive FailureKind where
  /-- What was asked for cannot be done. -/
  | badRequest
  /-- What should have worked did not. -/
  | internal
  deriving DecidableEq, Repr

namespace FailureKind

def name : FailureKind → String
  | badRequest => "BadRequest"
  | internal => "Internal"

def label : FailureKind → String
  | badRequest => "Bad request"
  | internal => "Internal server error"

end FailureKind

inductive Failure where
  | unreadableFile (path reason : String)
  | unreadableTable (source reason : String)
  | configuration (reason : String)
  | unreadableConfig (reason : String)
  | invalidConfig (reason : String)
  | unknownDialect (name : String)
  | unknownConfiguredDialect (name : String)
  /-- The name in lower case, without the blanks around it. -/
  | unknownTarget (name : String)
  | rendering (reason : String)
  deriving DecidableEq, Repr

namespace Failure

def kind : Failure → FailureKind
  | unreadableFile _ _ | unknownDialect _ | rendering _ => .internal
  | _ => .badRequest

def message : Failure → String
  | unreadableFile path reason => "Failed to read file '" ++ path ++ "': " ++ reason
  | unreadableTable source reason =>
    "Table definition parse error in " ++ source ++
      (match Position.of? reason with
        | some p => " at line " ++ toString p.line ++ ", column " ++ toString p.column
        | none => "") ++
      ":\n  " ++ reason
  | configuration reason => reason
  | unreadableConfig reason => "Failed to read config file: " ++ reason
  | invalidConfig reason => "Invalid config file: " ++ reason
  | unknownDialect name =>
    "Unknown dialect '" ++ name ++ "' (expected one of: snowflake_sql, spark_sql, bigquery_sql, " ++
      "tsql, mysql, postgresql, ansi)"
  | unknownConfiguredDialect name => "Unknown dialect '" ++ name ++ "' in config"
  | unknownTarget name => "Unknown target '" ++ name ++ "' (expected sql, dbt or all)"
  | rendering reason => reason

end Failure

end CleanSql
