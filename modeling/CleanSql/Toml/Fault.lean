import CleanSql.Decode.Mismatch

/-!
# Faults of TOML documents

What can be wrong with a TOML text, and the picture of the line in which it is. Places are counted
in bytes.
-/
namespace CleanSql.Toml

/-- A part of a text, from the byte at its start up to the byte at its end. -/
structure Span where
  start : Nat
  stop : Nat
  deriving DecidableEq, Repr

namespace Span

def point (place : Nat) : Span := ⟨place, place⟩

/-- From the start of one part to the end of another. -/
def through (s t : Span) : Span := ⟨s.start, t.stop⟩

end Span

/-- The kinds of values as they are called in messages. -/
inductive ValueKind where
  | text
  | integer
  | float
  | bool
  | moment
  | list
  | table
  | inlineTable
  deriving DecidableEq, Repr

def ValueKind.words : ValueKind → String
  | text => "string"
  | integer => "integer"
  | float => "float"
  | bool => "boolean"
  | moment => "datetime"
  | list => "array"
  | table => "table"
  | inlineTable => "inline table"

inductive Quotes where
  | literal
  | basic
  | multilineLiteral
  | multilineBasic
  deriving DecidableEq, Repr

namespace Quotes

def words : Quotes → String
  | literal => "literal string"
  | basic => "basic string"
  | multilineLiteral => "multi-line literal string"
  | multilineBasic => "multi-line basic string"

def mark : Quotes → String
  | literal => "'"
  | basic => "\""
  | multilineLiteral => "'''"
  | multilineBasic => "\"\"\""

def content : Quotes → String
  | literal => "non-single-quote visible characters"
  | basic => "non-double-quote visible characters, `\\`"
  | multilineLiteral => "non-single-quote characters"
  | multilineBasic => "`\\`, characters"

end Quotes

inductive Radix where
  | hexadecimal
  | octal
  | binary
  deriving DecidableEq, Repr

namespace Radix

def base : Radix → Nat
  | hexadecimal => 16
  | octal => 8
  | binary => 2

def words : Radix → String
  | hexadecimal => "hexadecimal"
  | octal => "octal"
  | binary => "binary"

def letter : Radix → Char
  | hexadecimal => 'x'
  | octal => 'o'
  | binary => 'b'

end Radix

inductive Cause where
  -- tokens in the wrong place
  | noEquals
  | noTableEnd
  | noListTableEnd
  | noListTableBracket
  | noTableStart
  | noKeyBefore
  | extraEquals
  | noListStart
  | noInlineStart
  | noList
  | noInline
  | extraComma
  | equalsInList
  | noItemComma
  | extraEntryComma
  | extraEntryEquals
  | noEntryEquals
  | noEntryComma
  | noEntryKey
  | tooDeep
  | afterLine
  | loneReturn
  | controlInComment
  -- keys and scalars
  | emptyKey
  | badKey
  | multilineKey (quotes : Quotes)
  | notQuoted
  | noWord (kind : ValueKind) (word : String)
  | twoSigns
  | signedRadix
  | capitalRadix (radix : Radix)
  | decimalRadix
  | signInside
  | badDigit (radix : Option Radix)
  | noDigits (part : String)
  | leadingZero
  | badFloat
  | underscore
  | badMoment (part expected : Option String)
  | openText (quotes : Quotes)
  | badText (quotes : Quotes)
  | badEscape
  | shortCode
  | badCode
  -- tables
  | duplicateKey
  | notExtensible (kind : ValueKind)
  -- what is said
  | mismatch (m : Mismatch)
  | notAName
  | noName
  | manyNames
  | notEmpty (kind : ValueKind)
  | noTable (kind : ValueKind)
  | largeInteger
  | largeFloat
  deriving DecidableEq, Repr

namespace Cause

def message : Cause → String
  | noEquals => "key with no value, expected `=`"
  | noTableEnd => "unclosed table, expected `]`"
  | noListTableEnd => "unclosed array table, expected `]]`"
  | noListTableBracket => "unclosed array table, expected `]`"
  | noTableStart => "missing table open, expected `[`"
  | noKeyBefore => "invalid key-value pair, expected key"
  | extraEquals => "extra `=`, expected nothing"
  | noListStart => "missing array opening, expected `[`"
  | noInlineStart => "missing inline table opening, expected `\x7b`"
  | noList => "unclosed array, expected `]`"
  | noInline => "unclosed inline table, expected `\x7d`"
  | extraComma => "extra comma in array, expected value"
  | equalsInList => "unexpected `=` in array, expected value, `]`"
  | noItemComma => "missing comma between array elements, expected `,`"
  | extraEntryComma => "extra comma in inline table, expected key"
  | extraEntryEquals => "extra assignment between key-value pairs, expected value"
  | noEntryEquals => "missing assignment between key-value pairs, expected `=`"
  | noEntryComma => "missing comma between key-value pairs, expected `,`"
  | noEntryKey => "missing key for inline table element, expected key"
  | tooDeep => "cannot recurse further; max recursion depth met"
  | afterLine => "unexpected key or value, expected newline, `#`"
  | loneReturn => "carriage return must be followed by newline, expected newline"
  | controlInComment => "invalid comment character, expected printable characters"
  | emptyKey => "unquoted keys cannot be empty, expected letters, numbers, `-`, `_`"
  | badKey => "invalid unquoted key, expected letters, numbers, `-`, `_`"
  | multilineKey quotes => "keys cannot be " ++ quotes.words ++ "s, expected "
      ++ (if quotes = .multilineLiteral then Quotes.literal else Quotes.basic).words
  | notQuoted => "string values must be quoted, expected literal string"
  | noWord kind word => "invalid " ++ kind.words ++ ", expected `" ++ word ++ "`"
  | twoSigns => "redundant numeric sign, expected nothing"
  | signedRadix => "integers with a radix cannot be signed, expected nothing"
  | capitalRadix radix =>
    "radix must be lowercase, expected `0" ++ String.singleton radix.letter ++ "`"
  | decimalRadix => "redundant integer number prefix, expected nothing"
  | signInside => "unexpected sign, expected nothing"
  | badDigit radix => "invalid " ++ radix.elim "integer" Radix.words ++ " number"
  | noDigits part => "invalid " ++ part ++ ", expected digits"
  | leadingZero => "unexpected leading zero, expected nothing"
  | badFloat => "invalid float, expected nothing"
  | underscore => "`_` may only go between digits, expected nothing"
  | badMoment part expected =>
    "invalid " ++ part.getD "datetime" ++ expected.elim "" fun e => ", expected " ++ e
  | openText quotes => "invalid " ++ quotes.words ++ ", expected `" ++ quotes.mark ++ "`"
  | badText quotes => "invalid " ++ quotes.words ++ ", expected " ++ quotes.content
  | badEscape =>
    "missing escaped value, expected `b`, `e`, `f`, `n`, `r`, `\\`, `\"`, `x`, `u`, `U`"
  | shortCode => "too few unicode value digits, expected unicode hexadecimal value"
  | badCode => "invalid value, expected unicode hexadecimal value"
  | duplicateKey => "duplicate key"
  | notExtensible kind =>
    "cannot extend value of type " ++ kind.words ++ " with a dotted key"
  | mismatch m => m.message
  | notAName => "wanted string or table"
  | noName => "wanted exactly 1 element, found 0 elements"
  | manyNames => "wanted exactly 1 element, more than 1 element"
  | notEmpty kind => "expected empty " ++ kind.words
  | noTable kind => "expected table, found " ++ kind.words
  | largeInteger => "integer number overflowed"
  | largeFloat => "floating-point number overflowed"

end Cause

structure Fault where
  cause : Cause
  span : Span
  deriving DecidableEq, Repr

def byteSize (cs : List Char) : Nat := cs.foldl (fun n c => n + c.utf8Size) 0

/-- The line in which a byte is, as the bytes before it and its characters up to that byte. The
line starts behind the last line feed before the byte. -/
def lineAt (place : Nat) : List Char → Nat → List (Nat × Char) → Nat → Nat × List (Nat × Char)
  | [], _, line, lines => (lines, line.reverse)
  | c :: rest, offset, line, lines =>
    if place < offset then (lines, line.reverse)
    else if c = '\n' && offset < place then lineAt place rest (offset + 1) [] (lines + 1)
    else lineAt place rest (offset + c.utf8Size) ((offset, c) :: line) lines

/-- The line and the column of a byte, both from zero. A column counts characters, except where
the byte starts a character of several bytes; there it counts bytes. Behind the end of a text the
columns of its last line go on. -/
def position (text : List Char) (place : Nat) : Nat × Nat :=
  let size := byteSize text
  if size = 0 then (0, place)
  else
    let safe := min place (size - 1)
    let (line, before) := lineAt safe text 0 [] 0
    let column := match before.getLast?, before.head? with
      | some (offset, c), some (start, _) =>
        if offset + c.utf8Size = safe + 1 then before.length - 1 else safe - start
      | _, _ => 0
    (line, column + (place - safe))

/-- A fault as it is shown: its place, its line with a mark below it, and its cause. -/
def Fault.message (text : String) (f : Fault) : String :=
  let (line, column) := position text.toList f.span.start
  let number := toString (line + 1)
  let margin := String.ofList (List.replicate (number.length + 1) ' ') ++ "|"
  let content := ((text.splitOn "\n")[line]?).getD ""
  let marks := min (f.span.stop - f.span.start) (content.utf8ByteSize - column)
  "TOML parse error at line " ++ number ++ ", column " ++ toString (column + 1) ++ "\n"
    ++ margin ++ "\n"
    ++ number ++ " | " ++ content ++ "\n"
    ++ margin ++ String.ofList (List.replicate (column + 1) ' ' ++ List.replicate (max 1 marks) '^')
    ++ "\n" ++ f.cause.message ++ "\n"

end CleanSql.Toml
