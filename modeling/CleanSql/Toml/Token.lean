import CleanSql.Toml.Fault

/-!
# Tokens

A text is cut into tokens, which together are the whole text. What is wrong inside of a token does
not matter yet; a text without an end goes up to the end of its line or of the document.
-/
namespace CleanSql.Toml

inductive TokenKind where
  | dot
  | equals
  | comma
  | openBracket
  | closeBracket
  | openBrace
  | closeBrace
  | blank
  | comment
  | newline
  | text (quotes : Quotes)
  /-- Anything else: bare keys, numbers, names. -/
  | bare
  | stop
  deriving DecidableEq, Repr

structure Token where
  kind : TokenKind
  start : Nat
  text : List Char
  deriving DecidableEq, Repr

namespace Token

def stop (t : Token) : Nat := t.start + byteSize t.text

def span (t : Token) : Span := ⟨t.start, t.stop⟩

def before (t : Token) : Span := .point t.start

def after (t : Token) : Span := .point t.stop

end Token

def isSeparator (c : Char) : Bool := ".=,[]\x7b\x7d \t#\r\n".toList.contains c

/-- The characters of a text on one line behind its opening quote, with its closing quote if there
is one. The flag tells that a backslash escapes the next character. -/
def takeLineText (quote : Char) (escapes : Bool) : List Char → List Char
  | [] => []
  | '\n' :: _ => []
  | '\\' :: c :: rest =>
    if escapes && (c = '\\' || c = quote) then '\\' :: c :: takeLineText quote escapes rest
    else '\\' :: takeLineText quote escapes (c :: rest)
  | c :: rest => if c = quote then [c] else c :: takeLineText quote escapes rest

/-- The characters of a text over several lines behind its opening quotes, with its closing quotes
and up to two more. -/
def takeBlockText (quote : Char) (escapes : Bool) : List Char → List Char
  | [] => []
  | '\\' :: c :: rest =>
    if escapes && (c = '\\' || c = quote) then '\\' :: c :: takeBlockText quote escapes rest
    else '\\' :: takeBlockText quote escapes (c :: rest)
  | c :: rest =>
    if [c] ++ rest.take 2 = [quote, quote, quote] then
      [quote, quote, quote] ++ ((rest.drop 2).take 2).takeWhile (· = quote)
    else c :: takeBlockText quote escapes rest

def takeText (quote : Char) (oneLine block : Quotes) (rest : List Char) : TokenKind × List Char :=
  let escapes := quote = '"'
  if rest.take 2 = [quote, quote] then
    (.text block, [quote, quote, quote] ++ takeBlockText quote escapes (rest.drop 2))
  else (.text oneLine, quote :: takeLineText quote escapes rest)

def takeToken (c : Char) (rest : List Char) : TokenKind × List Char :=
  match c with
  | '.' => (.dot, [c])
  | '=' => (.equals, [c])
  | ',' => (.comma, [c])
  | '[' => (.openBracket, [c])
  | ']' => (.closeBracket, [c])
  | '\x7b' => (.openBrace, [c])
  | '\x7d' => (.closeBrace, [c])
  | '\n' => (.newline, [c])
  | '\r' => (.newline, c :: rest.take (if rest.head? = some '\n' then 1 else 0))
  | '#' => (.comment, c :: rest.takeWhile fun d => d ≠ '\n' && d ≠ '\r')
  | '\'' => takeText c .literal .multilineLiteral rest
  | '"' => takeText c .basic .multilineBasic rest
  | _ =>
    if c = ' ' || c = '\t' then (.blank, c :: rest.takeWhile fun d => d = ' ' || d = '\t')
    else (.bare, c :: rest.takeWhile fun d => !isSeparator d)

def tokensFrom : Nat → Nat → List Char → List Token
  | 0, start, _ => [⟨.stop, start, []⟩]
  | _, start, [] => [⟨.stop, start, []⟩]
  | fuel + 1, start, c :: rest =>
    let (kind, text) := takeToken c rest
    ⟨kind, start, text⟩ :: tokensFrom fuel (start + byteSize text) (rest.drop (text.length - 1))

/-- The tokens of a text. A mark of the byte order at its start is passed over. -/
def tokens (text : String) : List Token :=
  match text.toList with
  | '\uFEFF' :: rest => tokensFrom rest.length 3 rest
  | cs => tokensFrom cs.length 0 cs

end CleanSql.Toml
