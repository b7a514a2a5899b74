import CleanSql.Query.Rules
import CleanSql.Query.Token

/-!
# Cutting a query into tokens

Blanks and comments stand between tokens and are passed over. Every reader takes what it reads off
the front of the text and gives back the rest.
-/
namespace CleanSql.Query

def afterChar (p : Position) (c : Char) : Position :=
  if c = '\n' then ⟨p.line + 1, 1⟩ else ⟨p.line, p.column + 1⟩

/-- What is wrong with a token, so many characters behind its first one. -/
inductive LexicalFault where
  | openText (offset : Nat)
  | openName (closing : Char)
  | openComment

def unescape (c : Char) : Char :=
  match c with
  | '0' => '\x00'
  | 'a' => '\x07'
  | 'b' => '\x08'
  | 'f' => '\x0c'
  | 'n' => '\n'
  | 'r' => '\r'
  | 't' => '\t'
  | 'Z' => '\x1a'
  | c => c

def escaped (g : Rules) (c : Char) : List Char :=
  if g.keptEscapes.contains c then ['\\', c] else [unescape c]

/-- Reads a text up to its closing quote; two of them stand for one. -/
def readQuoted (g : Rules) (backslash : Bool) (quote : Char) :
    List Char → Option (List Char × List Char)
  | [] => none
  | [c] => if c = quote then some ([], []) else none
  | c :: d :: rest =>
    if c = quote then
      if d = quote then (readQuoted g backslash quote rest).map fun (v, r) => (quote :: v, r)
      else some ([], d :: rest)
    else if c = '\\' && backslash then
      (readQuoted g backslash quote rest).map fun (v, r) => (escaped g d ++ v, r)
    else (readQuoted g backslash quote (d :: rest)).map fun (v, r) => (c :: v, r)

def readTripleQuoted (g : Rules) (quote : Char) : List Char → Option (List Char × List Char)
  | a :: b :: c :: rest =>
    if a = quote && b = quote && c = quote then some ([], rest)
    else if a = '\\' && g.backslash then
      (readTripleQuoted g quote (c :: rest)).map fun (v, r) => (escaped g b ++ v, r)
    else (readTripleQuoted g quote (b :: c :: rest)).map fun (v, r) => (a :: v, r)
  | _ => none

def readText (g : Rules) (quote : Char) (cs : List Char) :
    Except LexicalFault (String × List Char) :=
  let result (offset : Nat) (read : Option (List Char × List Char)) :=
    match read with
    | some (v, rest) => .ok (String.ofList v, rest)
    | none => .error (LexicalFault.openText offset)
  if g.tripleQuotes then
    match cs with
    | a :: b :: rest =>
      if a = quote && b = quote then result 3 (readTripleQuoted g quote rest)
      else if a = quote then .ok ("", b :: rest)
      else result 1 (readQuoted g g.backslash quote cs)
    | _ => result 1 (readQuoted g g.backslash quote cs)
  else result 0 (readQuoted g g.backslash quote cs)

/-- Reads what follows the first quote of a name; two closing quotes stand for one. -/
def readName (closing : Char) : List Char → Option (List Char × List Char)
  | [] => none
  | [c] => if c = closing then some ([], []) else none
  | c :: d :: rest =>
    if c = closing then
      if d = closing then (readName closing rest).map fun (v, r) => (closing :: v, r)
      else some ([], d :: rest)
    else (readName closing (d :: rest)).map fun (v, r) => (c :: v, r)

/-- The rest behind a comment that may hold line ends and other such comments. -/
def skipComment : Nat → List Char → Option (List Char)
  | _, [] => none
  | _, [_] => none
  | depth, c :: d :: rest =>
    if c = '*' && d = '/' then
      match depth with
      | 0 => some rest
      | n + 1 => skipComment n rest
    else if c = '/' && d = '*' then skipComment (depth + 1) rest
    else skipComment depth (d :: rest)

def skipLine (cs : List Char) : List Char := (cs.dropWhile (· ≠ '\n')).drop 1

/-- The exponent at the front of a text, if there is one. -/
def exponent (cs : List Char) : List Char :=
  match cs with
  | e :: rest =>
    if e = 'e' || e = 'E' then
      let (sign, digits) :=
        match rest with
        | s :: more => if s = '+' || s = '-' then ([s], more) else ([], rest)
        | [] => ([], [])
      let digits := digits.takeWhile Char.isDigit
      if digits.isEmpty then [] else e :: sign ++ digits
    else []
  | [] => []

/-- Reads a number, a word that starts with digits, or a point. -/
def readNumber (g : Rules) (cs : List Char) : Token × List Char :=
  let whole := cs.takeWhile Char.isDigit
  let rest := cs.dropWhile Char.isDigit
  let (point, rest) := match rest with
    | '.' :: more => (['.'], more)
    | _ => ([], rest)
  let fraction := rest.takeWhile Char.isDigit
  let rest := rest.dropWhile Char.isDigit
  let digits := whole ++ point ++ fraction
  if digits = ['.'] then (.symbol ".", rest)
  else
    let tail := exponent rest
    let rest := rest.drop tail.length
    let letters := rest.takeWhile g.isWordPart
    if g.digitWords && tail.isEmpty && !letters.isEmpty then
      (.word (String.ofList (digits ++ letters)) none, rest.drop letters.length)
    else
      match rest with
      | 'L' :: more => (.number (String.ofList (digits ++ tail ++ ['L'])), more)
      | _ => (.number (String.ofList (digits ++ tail)), rest)

def longSymbols : List String :=
  ["<=>", "->>", "#>>", "::", ":=", "||", "<>", "<=", ">=", "!=", "=>", "==", "->", "<<", ">>",
    "&&", "#>", "@>", "<@"]

/-- Reads a symbol. Of two signs for unequal the first is the usual one. -/
def readSymbol (c : Char) (cs : List Char) : Token × List Char :=
  match longSymbols.find? fun s => s.toList.isPrefixOf (c :: cs) with
  | some s => (.symbol (if s = "!=" then "<>" else s), cs.drop (s.length - 1))
  | none => (.symbol c.toString, cs)

def readToken (g : Rules) (c : Char) (cs : List Char) :
    Except LexicalFault (Option Token × List Char) :=
  let token (t : Token × List Char) : Except LexicalFault (Option Token × List Char) :=
    .ok (some t.1, t.2)
  let word : Except LexicalFault (Option Token × List Char) :=
    token (.word (String.ofList (c :: cs.takeWhile g.isWordPart)) none, cs.dropWhile g.isWordPart)
  if c = ' ' || c = '\t' || c = '\n' || c = '\r' then .ok (none, cs)
  else if c = '\'' then (readText g c cs).map fun (v, rest) => (some (.text v), rest)
  else if g.nameQuotes.contains c then
    match readName (Token.closing c) cs with
    | some (name, rest) => token (.word (String.ofList name) (some c), rest)
    | none => .error (.openName (Token.closing c))
  else if c = '"' then (readText g c cs).map fun (v, rest) => (some (.doubleQuoted v), rest)
  else if g.marks.contains c.toUpper then
    match cs with
    | '\'' :: rest =>
      match readQuoted g (g.backslash || g.escapeMarks.contains c.toUpper) '\'' rest with
      | some (v, rest) => token (.marked c.toString (String.ofList v), rest)
      | none => .error (.openText 1)
    | _ => word
  else if g.isWordStart c then word
  else if c.isDigit || c = '.' then token (readNumber g (c :: cs))
  else
    match c, cs with
    | '-', '-' :: rest =>
      if g.dashCommentsNeedBlank && !(rest.head?.any Text.isBlank) then token (.symbol "-", cs)
      else .ok (none, skipLine rest)
    | '/', '*' :: rest =>
      match skipComment 0 rest with
      | some rest => .ok (none, rest)
      | none => .error .openComment
    | '/', '/' :: rest => if g.slashComments then .ok (none, skipLine rest) else token (.symbol "/", cs)
    | '#', rest => if g.hashComments then .ok (none, skipLine rest) else token (readSymbol c cs)
    | _, _ => token (readSymbol c cs)

def LexicalFault.located (p : Position) (cs : List Char) : LexicalFault → QueryFault
  | openText offset => .openText ((cs.take offset).foldl afterChar p)
  | openName closing => .openName closing p
  | openComment => .openComment (cs.foldl afterChar p)

/-- The tokens of a text of at most so many characters, the first of which stands at a place. -/
def tokensFrom (g : Rules) : Nat → Position → List Char → Except QueryFault (List PlacedToken)
  | 0, _, _ => .ok []
  | _ + 1, _, [] => .ok []
  | n + 1, p, c :: cs =>
    match readToken g c cs with
    | .error f => .error (f.located p (c :: cs))
    | .ok (t, rest) => do
      let next := ((c :: cs).take (cs.length + 1 - rest.length)).foldl afterChar p
      let others ← tokensFrom g n next rest
      pure ((t.map fun t => ⟨t, p⟩).toList ++ others)

def tokens (g : Rules) (query : String) : Except QueryFault (List PlacedToken) :=
  tokensFrom g query.length ⟨1, 1⟩ query.toList

end CleanSql.Query
