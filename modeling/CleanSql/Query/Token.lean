import CleanSql.Error

/-!
# Tokens of SQL

The words, literals and symbols of a query, each with its place, and what is said about a query
that is none.
-/
namespace CleanSql.Query

inductive Token where
  /-- A word; it is no keyword if it stands in quotes, the first of which is kept. -/
  | word (text : String) (quote : Option Char)
  | number (digits : String)
  | text (value : String)
  | doubleQuoted (value : String)
  /-- A text literal of another kind, with the letters before its quote. -/
  | marked (mark value : String)
  | symbol (shape : String)
  deriving DecidableEq, Repr

namespace Token

def closing (quote : Char) : Char := if quote = '[' then ']' else quote

def shown : Token → String
  | word name none => name
  | word name (some quote) => quote.toString ++ name ++ (closing quote).toString
  | number digits => digits
  | text value => "'" ++ value ++ "'"
  | doubleQuoted value => "\"" ++ value ++ "\""
  | marked mark value => mark ++ "'" ++ value ++ "'"
  | symbol shape => shape

def keyword? : Token → Option String
  | word name none => some name.toUpper
  | _ => none

end Token

structure PlacedToken where
  token : Token
  place : Position
  deriving DecidableEq, Repr

inductive QueryFault where
  | openText (place : Position)
  | openName (closing : Char) (place : Position)
  | openComment (place : Position)
  /-- Something else was expected; nothing was found at the end of the query. -/
  | expected (what : String) (found : Option PlacedToken)
  /-- The word `from` in the place of a value, and what follows it. -/
  | strayFrom (word : String) (next : Option PlacedToken)
  | tooDeep
  deriving DecidableEq, Repr

namespace QueryFault

def at_ (p : Position) : String :=
  " at Line: " ++ toString p.line ++ ", Column: " ++ toString p.column

/-- The place of a token; the end of the query has none. -/
def atToken (t : Option PlacedToken) : String := t.elim "" fun t => at_ t.place

def foundWords (t : Option PlacedToken) : String := t.elim "EOF" fun t => t.token.shown

def words : QueryFault → String
  | openText p => "Unterminated string literal" ++ at_ p
  | openName closing p =>
    "Expected close delimiter '" ++ closing.toString ++ "' before EOF." ++ at_ p
  | openComment p => "Unexpected EOF while in a multi-line comment" ++ at_ p
  | expected what found =>
    "Expected: " ++ what ++ ", found: " ++ foundWords found ++ atToken found
  | strayFrom word next => "Expected an expression, found: " ++ word ++ atToken next
  | tooDeep => "recursion limit exceeded"

def message (f : QueryFault) : String := "sql parser error: " ++ f.words

end QueryFault

end CleanSql.Query
