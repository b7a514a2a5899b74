import CleanSql.Text.Shown

/-!
# Documents of the wrong shape

What is wrong with a document that reads well as text but is not what was expected, and the words
for it. Where it is wrong is up to the notation of the document.
-/
namespace CleanSql

/-- What was found in the place of what was expected. -/
inductive Found where
  | null
  | unit
  | bool (value : Bool)
  | integer (value : Int)
  /-- A whole number that needs two words, with or without a sign. -/
  | wide (value : Int) (signed : Bool)
  /-- A number with a fraction, as its notation writes it. -/
  | float (digits : String)
  | text (value : String)
  | list
  | map
  | other (words : String)
  deriving DecidableEq, Repr

namespace Found

def words : Found → String
  | null => "null"
  | unit => "unit value"
  | bool value => "boolean `" ++ (if value then "true" else "false") ++ "`"
  | integer value => "integer `" ++ toString value ++ "`"
  | wide value signed =>
    "integer `" ++ toString value ++ (if signed then "` as i128" else "` as u128")
  | float digits => "floating point `" ++ digits ++ "`"
  | text value => "string " ++ Text.shown value
  | list => "sequence"
  | map => "map"
  | other words => words

end Found

inductive Mismatch where
  | type (found : Found) (expected : String)
  | value (found : Found) (expected : String)
  | length (found : Nat) (expected : String)
  | variant (found : String) (expected : List String)
  | missing (field : String)
  | duplicate (field : String)
  deriving DecidableEq, Repr

namespace Mismatch

def choiceWords : List String → String
  | [] => "nothing"
  | [a] => "`" ++ a ++ "`"
  | [a, b] => "`" ++ a ++ "` or `" ++ b ++ "`"
  | names => "one of " ++ String.intercalate ", " (names.map fun n => "`" ++ n ++ "`")

def message : Mismatch → String
  | type found expected => "invalid type: " ++ found.words ++ ", expected " ++ expected
  | value found expected => "invalid value: " ++ found.words ++ ", expected " ++ expected
  | length found expected => "invalid length " ++ toString found ++ ", expected " ++ expected
  | variant found expected =>
    "unknown variant `" ++ found ++ "`, expected " ++ choiceWords expected
  | missing field => "missing field `" ++ field ++ "`"
  | duplicate field => "duplicate field `" ++ field ++ "`"

end Mismatch

end CleanSql
