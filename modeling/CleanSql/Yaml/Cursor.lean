import CleanSql.Yaml.Fault
import CleanSql.Yaml.Scalar

/-!
# The rest of a text

A cursor is what is left of a text together with its place. Lines end in a carriage return, a line
feed, both in this order, or one of three separators.
-/
namespace CleanSql.Yaml

def isNameChar (c : Char) : Bool := c.isAlphanum || c = '_' || c = '-'

/-- The characters that belong to the notation of inline lists and maps. -/
def isFlowMark (c : Char) : Bool :=
  c = ',' || c = '[' || c = ']' || c = '\x7b' || c = '\x7d'

def breakChar (c : Char) : Char := if c = '\u2028' ∨ c = '\u2029' then c else '\n'

structure Cursor where
  rest : List Char
  mark : Mark

namespace Cursor

def head? (c : Cursor) : Option Char := c.rest.head?

def startsWith (c : Cursor) (p : Char → Bool) : Bool := c.rest.head?.any p

def next (c : Cursor) : Cursor :=
  match c.rest with
  | [] => c
  | _ :: rest => ⟨rest, c.mark.right⟩

def skip : Nat → Cursor → Cursor
  | 0, c => c
  | n + 1, c => skip n c.next

/-- The cursor behind the characters with a property; they break no line. -/
def dropWhile (p : Char → Bool) (c : Cursor) : Cursor := go c.rest c.mark
where
  go : List Char → Mark → Cursor
    | [], mark => ⟨[], mark⟩
    | d :: rest, mark => if p d then go rest mark.right else ⟨d :: rest, mark⟩

def line (c : Cursor) : List Char := c.rest.takeWhile fun d => !isBreak d

def dropLine (c : Cursor) : Cursor := c.dropWhile fun d => !isBreak d

/-- The break at the cursor, if there is one, and the cursor behind it. -/
def readBreak (c : Cursor) : Option Char × Cursor :=
  match c.rest with
  | '\r' :: '\n' :: rest => (some '\n', ⟨rest, c.mark.down 2⟩)
  | d :: rest => if isBreak d then (some (breakChar d), ⟨rest, c.mark.down 1⟩) else (none, c)
  | [] => (none, c)

/-- A row of three equal characters at the start of a line separates documents. -/
def isAtSeparator (row : Char) (c : Cursor) : Bool :=
  c.mark.column = 0 && c.rest.take 3 = [row, row, row] && isWordEnd (c.rest.drop 3)

def isAtDocumentMark (c : Cursor) : Bool := c.isAtSeparator '-' || c.isAtSeparator '.'

/-- Behind the blanks and the comment at the end of a line, which ends here. -/
def endLine? (c : Cursor) : Option Cursor :=
  let c := c.dropWhile isBlank
  let c := if c.head? = some '#' then c.dropLine else c
  match c.rest with
  | [] => some c
  | d :: _ => if isBreak d then some c.readBreak.2 else none

end Cursor

/-- Blanks and line breaks between two words of a scalar. -/
structure Gap where
  blanks : List Char
  breaks : List Char
  /-- The first line break does not count. -/
  escaped : Bool := false

namespace Gap

def broken (g : Gap) : Bool := g.escaped || !g.breaks.isEmpty

/-- One line break becomes a blank; of several the first is dropped. -/
def text (g : Gap) : List Char :=
  if g.escaped then g.breaks
  else
    match g.breaks with
    | [] => g.blanks
    | ['\n'] => [' ']
    | '\n' :: more => more
    | breaks => breaks

/-- Reads a gap. Behind a line break, a tab may not stand before a column. -/
def read (limit : Nat) : List Char → Mark → Gap → Except Mark (Gap × Cursor)
  | [], mark, g => .ok (g, ⟨[], mark⟩)
  | '\r' :: '\n' :: rest, mark, g =>
    read limit rest (mark.down 2) { g with breaks := g.breaks ++ ['\n'] }
  | c :: rest, mark, g =>
    if isBreak c then
      read limit rest (mark.down 1) { g with breaks := g.breaks ++ [breakChar c] }
    else if !isBlank c then .ok (g, ⟨c :: rest, mark⟩)
    else if !g.broken then read limit rest mark.right { g with blanks := g.blanks ++ [c] }
    else if c = '\t' && mark.column < limit then .error mark
    else read limit rest mark.right g

end Gap

end CleanSql.Yaml
