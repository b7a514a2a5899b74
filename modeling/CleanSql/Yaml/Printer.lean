import CleanSql.Data
import CleanSql.Yaml.Scalar

/-!
# YAML text of data

Records and lists are written as blocks, one member or item a line, and a text in the plainest
style that reads back as that text: plain, in single quotes, as a literal block if it has several
lines, or in double quotes if it holds what only an escape can say.
-/
namespace CleanSql.Yaml

/-- The characters that stand for themselves in a document that is written. -/
def isPrintable (c : Char) : Bool :=
  c = '\n' || (0x20 ≤ c.toNat && c.toNat ≤ 0x7E) || (0xA0 ≤ c.toNat && c.toNat ≤ 0xD7FF) ||
    (0xE000 ≤ c.toNat && c.toNat ≤ 0xFFFD && c.toNat ≠ 0xFEFF) || 0x10000 ≤ c.toNat

def isReserved (c : Char) : Bool :=
  ['#', ',', '[', ']', '\x7b', '\x7d', '&', '*', '!', '|', '>', '\'', '"', '%', '@',
    '\x60'].contains c

/-- Whether a scalar holds what would be taken for structure. The flag tells that the character
before was a blank. -/
def hasIndicator : Bool → List Char → Bool
  | _, [] => false
  | afterBlank, c :: rest =>
    (c = ':' && isWordEnd rest) || (c = '#' && afterBlank) ||
      hasIndicator (isBlank c || isBreak c) rest

/-- Whether a scalar cannot be written plainly because of a character that marks structure. -/
def looksLikeStructure (cs : List Char) : Bool :=
  cs.take 3 = ['-', '-', '-'] || cs.take 3 = ['.', '.', '.'] ||
    match cs with
    | [] => false
    | c :: rest =>
      isReserved c || ((c = '?' || c = ':' || c = '-') && isWordEnd rest) ||
        hasIndicator (isBlank c || isBreak c) rest

/-- Whether a character of the first kind is followed by one of the second. -/
def hasPair (first second : Char → Bool) : List Char → Bool
  | a :: b :: rest => (first a && second b) || hasPair first second (b :: rest)
  | _ => false

def isSpace (c : Char) : Bool := c = ' '

def hasLooseEnd (cs : List Char) : Bool :=
  [cs.head?, cs.getLast?].any fun c => c.any fun c => isSpace c || isBreak c

/-- Texts that only double quotes can hold. -/
def needsEscapes (cs : List Char) : Bool :=
  cs.any (fun c => !isPrintable c) || hasPair isSpace isBreak cs

/-- Whether a text would be read as something else if it were plain. -/
def isMeaningful (s : String) : Bool :=
  match Meaning.of s with
  | .text => isDigitsNotNumber s.toList
  | _ => true

/-- The style of a text; the flag tells that it is a key. -/
def styleOf (isKey : Bool) (s : String) : Style :=
  let cs := s.toList
  let multiline := cs.any isBreak
  let singleOrDouble : Style :=
    if needsEscapes cs || hasPair isBreak isSpace cs then .double else .single
  if isKey && multiline then .double
  else if cs.contains '\n' then
    if isKey || needsEscapes cs || cs.getLast?.any isSpace then .double else .literal
  else if isMeaningful s then singleOrDouble
  else if needsEscapes cs || hasPair isBreak isSpace cs || hasLooseEnd cs || multiline ||
      looksLikeStructure cs then singleOrDouble
  else .plain

def upperHexDigit (n : Nat) : Char :=
  if n < 10 then Char.ofNat (0x30 + n) else Char.ofNat (0x41 + (n - 10))

def upperHex : Nat → Nat → List Char
  | 0, _ => []
  | width + 1, n => upperHex width (n / 16) ++ [upperHexDigit (n % 16)]

def escapeDouble (c : Char) : List Char :=
  if isPrintable c && !isBreak c && c ≠ '"' && c ≠ '\\' then [c]
  else if c = '\x00' then ['\\', '0']
  else if c = '\x07' then ['\\', 'a']
  else if c = '\x08' then ['\\', 'b']
  else if c = '\t' then ['\\', 't']
  else if c = '\n' then ['\\', 'n']
  else if c = '\x0b' then ['\\', 'v']
  else if c = '\x0c' then ['\\', 'f']
  else if c = '\r' then ['\\', 'r']
  else if c = '\x1b' then ['\\', 'e']
  else if c = '"' then ['\\', '"']
  else if c = '\\' then ['\\', '\\']
  else if c = '\x85' then ['\\', 'N']
  else if c = '\u2028' then ['\\', 'L']
  else if c = '\u2029' then ['\\', 'P']
  else if c.toNat ≤ 0xFF then '\\' :: 'x' :: upperHex 2 c.toNat
  else if c.toNat ≤ 0xFFFF then '\\' :: 'u' :: upperHex 4 c.toNat
  else '\\' :: 'U' :: upperHex 8 c.toNat

def quoteDouble (s : String) : String :=
  String.ofList ('"' :: s.toList.flatMap escapeDouble ++ ['"'])

def spaces (n : Nat) : List Char := List.replicate n ' '

/-- The characters of a text over several lines, each line that is not empty behind an indent.
The flag tells that a line has just ended. -/
def indentLines (indent : Nat) : Bool → List Char → List Char
  | _, [] => []
  | fresh, c :: rest =>
    if isBreak c then c :: indentLines indent true rest
    else (if fresh then spaces indent else []) ++ c :: indentLines indent false rest

/-- A text between single quotes; a quote in it is doubled. -/
def quoteSingle (indent : Nat) (s : String) : String :=
  let cs := s.toList
  String.ofList <|
    '\'' :: indentLines indent false (cs.flatMap fun c => if c = '\'' then ['\'', '\''] else [c])
      ++ (if cs.getLast?.any isBreak then spaces indent else []) ++ ['\'']

/-- How many breaks at its end a block keeps, and by how much it is indented if it begins with a
blank. -/
def blockHeader (cs : List Char) : String :=
  (if cs.head?.any fun c => isSpace c || isBreak c then "2" else "") ++
    match cs.reverse with
    | [] => "-"
    | [c] => if isBreak c then "+" else "-"
    | c :: d :: _ => if isBreak c then (if isBreak d then "+" else "") else "-"

/-- A block that keeps its lines; it ends its own last line if the text does. -/
def writeLiteral (indent : Nat) (s : String) : String :=
  let cs := s.toList
  "|" ++ blockHeader cs ++ "\n" ++
    String.ofList (indentLines indent true cs) ++
    if cs.getLast?.any isBreak then "" else "\n"

def writeText (indent : Nat) (s : String) : String :=
  match styleOf false s with
  | .plain => s ++ "\n"
  | .single => quoteSingle indent s ++ "\n"
  | .double => quoteDouble s ++ "\n"
  | .literal | .folded => writeLiteral indent s

/-- Whether a text can stand before its colon on one line. -/
def isSimpleKey (s : String) : Bool := !s.toList.any isBreak && s.utf8ByteSize ≤ 128

def writeKey (indent : Nat) (s : String) : String :=
  if isSimpleKey s then
    (match styleOf true s with
      | .plain => s
      | .double => quoteDouble s
      | _ => quoteSingle indent s) ++ ":"
  else "? " ++ writeText (indent + 2) s ++ String.ofList (spaces indent) ++ ":"

end Yaml

namespace Data

open Yaml

mutual

/-- The text of a value. The first line of a block is not indented; `indent` is where its further
lines begin, save that the lines of a lone text stand two in from the margin. -/
def toYamlAt (indent : Nat) : Data → String
  | null => "null\n"
  | bool value => (if value then "true" else "false") ++ "\n"
  | nat value => toString value ++ "\n"
  | text value => writeText (if indent = 0 then 2 else indent) value
  | list [] => "[]\n"
  | list (item :: rest) =>
    "- " ++ item.toYamlAt (indent + 2) ++ toYamlItems indent rest
  | record [] => "\x7b\x7d\n"
  | record ((key, value) :: rest) =>
    toYamlMember indent key value ++ toYamlMembers indent rest

def toYamlItems (indent : Nat) : List Data → String
  | [] => ""
  | item :: rest =>
    String.ofList (spaces indent) ++ "- " ++ item.toYamlAt (indent + 2) ++
      toYamlItems indent rest

/-- A member: a list stands under its key, a record one step further in. -/
def toYamlMember (indent : Nat) (key : String) (value : Data) : String :=
  writeKey indent key ++
    match value with
    | list (item :: rest) => "\n" ++ toYamlItems indent (item :: rest)
    | record ((k, v) :: rest) => "\n" ++ toYamlMembers (indent + 2) ((k, v) :: rest)
    | null => " null\n"
    | bool b => " " ++ (if b then "true" else "false") ++ "\n"
    | nat n => " " ++ toString n ++ "\n"
    | text s => " " ++ writeText (indent + 2) s
    | list [] => " []\n"
    | record [] => " \x7b\x7d\n"

def toYamlMembers (indent : Nat) : List (String × Data) → String
  | [] => ""
  | (key, value) :: rest =>
    String.ofList (spaces indent) ++ toYamlMember indent key value ++ toYamlMembers indent rest

end

def toYaml (d : Data) : String := d.toYamlAt 0

end Data

end CleanSql
