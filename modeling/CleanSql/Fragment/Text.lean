import CleanSql.Dialect.Quoting
import CleanSql.Fragment.Basic

/-!
# Transforms of text

Trimming, letter case, special characters, regular expressions and split parts, each written
around an expression.
-/
namespace CleanSql

/-- What `strip_special_chars` removes. -/
def specialCharsPattern : String := "[^a-zA-Z0-9]"

/-- The characters that have a meaning of their own in a regular expression. -/
def isRegexMeta (c : Char) : Bool :=
  ['\\', '.', '+', '*', '?', '(', ')', '|', '[', ']', '\x7b', '\x7d', '^', '$', '#', '&', '-',
    '~'].contains c

/-- A regular expression that matches one text and no other. -/
def escapeRegex (text : String) : String :=
  String.ofList (text.toList.flatMap fun c => if isRegexMeta c then ['\\', c] else [c])

namespace Profile

def writeTrim (p : Profile) (e : String) : String :=
  match p.trim with
  | .function name => name ++ "(" ++ e ++ ")"
  | .nested outer inner => outer ++ "(" ++ inner ++ "(" ++ e ++ "))"

def writeUpper (_ : Profile) (e : String) : String := "UPPER(" ++ e ++ ")"

def writeLower (_ : Profile) (e : String) : String := "LOWER(" ++ e ++ ")"

def writeConcat (p : Profile) (left right : String) : String :=
  match p.concat with
  | .operator symbol => "(" ++ left ++ " " ++ symbol ++ " " ++ right ++ ")"
  | .function name => name ++ "(" ++ left ++ ", " ++ right ++ ")"

def writeFirst (p : Profile) (e : String) : String :=
  match p.substring with
  | .fromFor => "SUBSTRING(" ++ e ++ " FROM 1 FOR 1)"
  | .positional | .withLength _ => "SUBSTRING(" ++ e ++ ", 1, 1)"

def writeRest (p : Profile) (e : String) : String :=
  match p.substring with
  | .fromFor => "SUBSTRING(" ++ e ++ " FROM 2)"
  | .positional => "SUBSTRING(" ++ e ++ ", 2)"
  | .withLength measure => "SUBSTRING(" ++ e ++ ", 2, " ++ measure ++ "(" ++ e ++ "))"

/-- The first character in upper case and the rest in lower case. -/
def writeCapital (p : Profile) (e : String) : String :=
  p.writeConcat (p.writeUpper (p.writeFirst e)) (p.writeLower (p.writeRest e))

/-- Words are what lies between single spaces; empty ones are kept. -/
def writePerWord (p : Profile) (rows : WordRows) (e : String) : String :=
  let space := p.quoteLiteral " "
  match rows with
  | .stringSplit =>
    "(SELECT STRING_AGG(" ++ p.writeCapital "w.value" ++ ", " ++ space ++
      ") WITHIN GROUP (ORDER BY w.ordinal) FROM STRING_SPLIT(" ++ e ++ ", " ++ space ++
      ", 1) AS w)"
  | .jsonTable =>
    "(SELECT GROUP_CONCAT(" ++ p.writeCapital "w.word" ++ " ORDER BY w.pos SEPARATOR " ++ space ++
      ") FROM JSON_TABLE(REPLACE(JSON_ARRAY(" ++ e ++ "), " ++ space ++ ", " ++
      p.quoteLiteral "\",\"" ++
      "), '$[*]' COLUMNS (pos FOR ORDINALITY, word TEXT PATH '$')) AS w)"

def writeTitle (p : Profile) (e : String) : Fragment :=
  match p.titleCase with
  | .function name => .exact (name ++ "(" ++ e ++ ")")
  | .perWord rows => .approximate (p.writePerWord rows e) (.titlePerWord p.dialect)
  | .firstCharacter => .approximate (p.writeCapital e) (.titleFirstCharacter p.dialect)

def writeRegex (p : Profile) (pattern replacement e : String) : Fragment :=
  match p.regex with
  | .unsupported => .unsupported (.noRegex p.dialect)
  | .function name trailing =>
    .exact (name ++ "(" ++ e ++ ", " ++ p.quoteLiteral pattern ++ ", " ++
      p.quoteLiteral replacement ++ trailing ++ ")")

def writeStrip (p : Profile) (e : String) : Fragment :=
  match p.writeRegex specialCharsPattern "" e with
  | .unsupported _ => .unsupported (.noStrip p.dialect)
  | written => written

/-- The part at `index`, counted from zero. -/
def writeSplit (p : Profile) (delimiter : String) (index : UInt64) (e : String) : Fragment :=
  match p.split.base?.elim (some index) (·.native? index) with
  | none => .unsupported (.splitIndex index p.dialect)
  | some native =>
    let n := toString native
    let delim := p.quoteLiteral delimiter
    match p.split with
    | .unsupported => .unsupported (.noSplit p.dialect)
    | .part name => .exact (name ++ "(" ++ e ++ ", " ++ delim ++ ", " ++ n ++ ")")
    | .regexArray name =>
      .exact (name ++ "(" ++ e ++ ", " ++ p.quoteLiteral (escapeRegex delimiter) ++ ")[" ++ n ++
        "]")
    | .safeArray name =>
      .exact (name ++ "(" ++ e ++ ", " ++ delim ++ ")[SAFE_OFFSET(" ++ n ++ ")]")
    | .substringIndex =>
      .exact ("SUBSTRING_INDEX(SUBSTRING_INDEX(" ++ e ++ ", " ++ delim ++ ", " ++ n ++ "), " ++
        delim ++ ", -1)")

end Profile

end CleanSql
