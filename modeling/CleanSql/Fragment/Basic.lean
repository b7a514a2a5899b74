import CleanSql.Dialect.Profile

/-!
# Rendered transforms

What comes of writing one transform in a dialect: SQL that does what was declared, SQL that does
nearly that, or nothing. A caveat says which of the two last cases it is, and why.
-/
namespace CleanSql

/-- Why a transform is not written as declared. -/
inductive Caveat where
  | titlePerWord (dialect : Dialect)
  | titleFirstCharacter (dialect : Dialect)
  | noRegex (dialect : Dialect)
  | noStrip (dialect : Dialect)
  | noSplit (dialect : Dialect)
  | splitIndex (index : UInt64) (dialect : Dialect)
  | noCast (type : DataType) (dialect : Dialect)
  | notNumeric (value : String)
  | notBoolean (value : String)
  deriving DecidableEq, Repr

def Caveat.message : Caveat → String
  | titlePerWord d =>
    "title case has no native function in " ++ d.name ++ "; emulated per space-separated word"
  | titleFirstCharacter d =>
    "title case has no native or per-word form in " ++ d.name ++
      "; emulated by capitalizing only the first character"
  | noRegex d => "regex unsupported in " ++ d.name ++ "; expression left unchanged"
  | noStrip d =>
    "strip_special_chars needs regex, which is unsupported in " ++ d.name ++ "; skipped"
  | noSplit d => "delimiter split unsupported in " ++ d.name ++ "; expression left unchanged"
  | splitIndex i d =>
    "split index " ++ toString i ++ " cannot be expressed in " ++ d.name ++
      "; expression left unchanged"
  | noCast t d => "cast to " ++ t.name ++ " unsupported in " ++ d.name ++ "; value left uncast"
  | notNumeric v =>
    "null_replacement '" ++ v ++ "' is not numeric; emitted as a string literal"
  | notBoolean v =>
    "null_replacement '" ++ v ++ "' is not a boolean; emitted as a string literal"

inductive Fragment where
  | exact (sql : String)
  /-- Valid SQL that differs from what was declared. -/
  | approximate (sql : String) (caveat : Caveat)
  /-- The transform is skipped. -/
  | unsupported (caveat : Caveat)
  deriving DecidableEq, Repr

namespace Fragment

def sql? : Fragment → Option String
  | exact sql => some sql
  | approximate sql _ => some sql
  | unsupported _ => none

def caveat? : Fragment → Option Caveat
  | exact _ => none
  | approximate _ caveat => some caveat
  | unsupported caveat => some caveat

/-- What an expression becomes: a skipped transform leaves it as it is. -/
def orKeep (f : Fragment) (expression : String) : String := f.sql?.getD expression

end Fragment

end CleanSql
