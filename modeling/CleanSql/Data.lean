/-!
# Data trees

What reports and tables look like to a document writer: plain values, lists, and records whose
members keep their order. Their JSON text has two layouts: with no blanks at all, and with one
member or item a line, indented by two spaces.
-/
namespace CleanSql

inductive Data where
  | null
  | bool (value : Bool)
  | nat (value : Nat)
  | text (value : String)
  | list (items : List Data)
  | record (members : List (String × Data))
  deriving Repr, Inhabited

namespace Data

def ofOption {α : Type} (f : α → Data) : Option α → Data
  | none => null
  | some a => f a

def ofList {α : Type} (f : α → Data) (as : List α) : Data := list (as.map f)

end Data

namespace Json

def hexDigit (n : Nat) : Char :=
  if n < 10 then Char.ofNat (0x30 + n) else Char.ofNat (0x61 + (n - 10))

/-- One character inside a string. Only quotes, backslashes and control characters are escaped. -/
def escape (c : Char) : List Char :=
  if c = '"' then ['\\', '"']
  else if c = '\\' then ['\\', '\\']
  else if c = '\x08' then ['\\', 'b']
  else if c = '\t' then ['\\', 't']
  else if c = '\n' then ['\\', 'n']
  else if c = '\x0c' then ['\\', 'f']
  else if c = '\r' then ['\\', 'r']
  else if c.toNat < 0x20 then
    ['\\', 'u', '0', '0', hexDigit (c.toNat / 16), hexDigit (c.toNat % 16)]
  else [c]

def quote (s : String) : String := String.ofList ('"' :: s.toList.flatMap escape ++ ['"'])

end Json

namespace Data

mutual

/-- The text without any blanks. -/
def toJson : Data → String
  | null => "null"
  | bool value => if value then "true" else "false"
  | nat value => toString value
  | text value => Json.quote value
  | list items => "[" ++ String.intercalate "," (toJsonItems items) ++ "]"
  | record members => "\x7b" ++ String.intercalate "," (toJsonMembers members) ++ "\x7d"

def toJsonItems : List Data → List String
  | [] => []
  | item :: rest => item.toJson :: toJsonItems rest

def toJsonMembers : List (String × Data) → List String
  | [] => []
  | (key, value) :: rest => (Json.quote key ++ ":" ++ value.toJson) :: toJsonMembers rest

end

def bracketLines (indent : String) (opening closing : String) (lines : List String) : String :=
  if lines.isEmpty then opening ++ closing
  else
    opening ++ "\n" ++ String.intercalate ",\n" (lines.map fun l => indent ++ "  " ++ l) ++ "\n" ++
      indent ++ closing

mutual

def toJsonLines (indent : String) : Data → String
  | null => "null"
  | bool value => if value then "true" else "false"
  | nat value => toString value
  | text value => Json.quote value
  | list items => bracketLines indent "[" "]" (toJsonLinesItems (indent ++ "  ") items)
  | record members =>
    bracketLines indent "\x7b" "\x7d" (toJsonLinesMembers (indent ++ "  ") members)

def toJsonLinesItems (indent : String) : List Data → List String
  | [] => []
  | item :: rest => item.toJsonLines indent :: toJsonLinesItems indent rest

def toJsonLinesMembers (indent : String) : List (String × Data) → List String
  | [] => []
  | (key, value) :: rest =>
    (Json.quote key ++ ": " ++ value.toJsonLines indent) :: toJsonLinesMembers indent rest

end

def toJsonPretty (d : Data) : String := d.toJsonLines ""

end Data

end CleanSql
