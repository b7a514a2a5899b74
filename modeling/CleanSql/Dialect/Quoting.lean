import CleanSql.Dialect.Profile

/-!
# Quoted identifiers and string literals

Names are written only as quoted identifiers and other texts only as string literals, character
by character, so that what is quoted reads back.
-/
namespace CleanSql

namespace IdentifierQuote

def opening : IdentifierQuote → Char
  | doubleQuote => '"'
  | backtick => '\x60'
  | bracket => '['

def closing : IdentifierQuote → Char
  | doubleQuote => '"'
  | backtick => '\x60'
  | bracket => ']'

/-- One character of a name, as it is written between the quotes. -/
def escape (q : IdentifierQuote) (c : Char) : List Char :=
  if c = q.closing then [c, c] else [c]

end IdentifierQuote

/-- One character of a text, as it is written inside a string literal. -/
def LiteralEscape.escape : LiteralEscape → Char → List Char
  | doubled, '\'' => ['\'', '\'']
  | doubledWithBackslash, '\'' => ['\'', '\'']
  | doubledWithBackslash, '\\' => ['\\', '\\']
  | backslash, '\'' => ['\\', '\'']
  | backslash, '\\' => ['\\', '\\']
  | backslash, '\n' => ['\\', 'n']
  | backslash, '\r' => ['\\', 'r']
  | _, c => [c]

namespace Profile

def quoteIdentifier (p : Profile) (name : String) : String :=
  String.ofList <|
    p.identifierQuote.opening :: name.toList.flatMap p.identifierQuote.escape ++
      [p.identifierQuote.closing]

def quoteLiteral (p : Profile) (text : String) : String :=
  String.ofList ('\'' :: text.toList.flatMap p.literalEscape.escape ++ ['\''])

@[simp] theorem toList_quoteIdentifier (p : Profile) (name : String) :
    (p.quoteIdentifier name).toList =
      p.identifierQuote.opening :: name.toList.flatMap p.identifierQuote.escape ++
        [p.identifierQuote.closing] := by
  simp [quoteIdentifier]

@[simp] theorem toList_quoteLiteral (p : Profile) (text : String) :
    (p.quoteLiteral text).toList =
      '\'' :: text.toList.flatMap p.literalEscape.escape ++ ['\''] := by
  simp [quoteLiteral]

end Profile

end CleanSql
