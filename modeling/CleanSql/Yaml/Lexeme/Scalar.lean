import CleanSql.Number.Numeral
import CleanSql.Yaml.Cursor

/-!
# Scalars

Reading texts: as they are, between quotes, and as blocks of indented lines.
-/
namespace CleanSql.Yaml

/-- A text that was read, and the cursor behind it. -/
structure Lexeme where
  text : List Char
  next : Cursor
  /-- Line breaks stand between the text and the cursor. -/
  brokenAfter : Bool := false

def simpleEscape? (c : Char) : Option Char :=
  match c with
  | '0' => some '\x00'
  | 'a' => some '\x07'
  | 'b' => some '\x08'
  | 't' | '\t' => some '\t'
  | 'n' => some '\n'
  | 'v' => some '\x0b'
  | 'f' => some '\x0c'
  | 'r' => some '\r'
  | 'e' => some '\x1b'
  | ' ' => some ' '
  | '"' => some '"'
  | '/' => some '/'
  | '\\' => some '\\'
  | 'N' => some '\x85'
  | '_' => some '\xa0'
  | 'L' => some '\u2028'
  | 'P' => some '\u2029'
  | _ => none

/-- How many digits of a code point follow a letter after a backslash. -/
def codeLength? (c : Char) : Option Nat :=
  match c with
  | 'x' => some 2
  | 'u' => some 4
  | 'U' => some 8
  | _ => none

/-- The character of a code point, unless it is half a pair or too large. -/
def charOf? (n : Nat) : Option Char :=
  if h : n.isValidChar then some (Char.ofNatAux n h) else none

def readEscape (c : Cursor) : Except (Cause × Mark) (Char × Cursor) :=
  match c.rest with
  | _ :: letter :: rest =>
    match simpleEscape? letter with
    | some e => .ok (e, c.skip 2)
    | none =>
      match codeLength? letter with
      | none => .error (.unknownEscape, c.mark)
      | some n =>
        let digits := rest.take n
        match if digits.length = n then Number.natOfDigits? 16 digits else none with
        | none => .error (.noHexDigit, (c.skip 2).mark)
        | some code =>
          match charOf? code with
          | none => .error (.noCharacter, (c.skip 2).mark)
          | some e => .ok (e, c.skip (2 + n))
  | _ => .error (.unknownEscape, c.mark)

/-- The kinds of quotes. In single ones a quote is doubled; in double ones a backslash escapes. -/
inductive Quote where
  | single
  | double
  deriving DecidableEq, Repr

def Quote.char : Quote → Char
  | single => '\''
  | double => '"'

def Quote.style : Quote → Style
  | single => .single
  | double => .double

/-- The characters between quotes up to a blank, a line break or the closing quote. -/
structure Word where
  text : List Char
  next : Cursor
  /-- It ends in a backslash at the end of a line, whose break is behind. -/
  escapedBreak : Bool := false

/-- Reads a word between quotes behind some of its characters, the last of them first. -/
def readWord (quote : Quote) :
    Nat → Cursor → List Char → Except (Cause × Mark) Word
  | 0, c, done => .ok ⟨done.reverse, c, false⟩
  | fuel + 1, c, done =>
    match c.rest, quote with
    | [], _ => .ok ⟨done.reverse, c, false⟩
    | '\'' :: '\'' :: _, .single => readWord quote fuel (c.skip 2) ('\'' :: done)
    | '\\' :: d :: _, .double =>
      if isBreak d then .ok ⟨done.reverse, c.next.readBreak.2, true⟩
      else
        match readEscape c with
        | .ok (e, next) => readWord quote fuel next (e :: done)
        | .error e => .error e
    | ['\\'], .double => .error (.unknownEscape, c.mark)
    | d :: _, _ =>
      if isBlank d || isBreak d || d = quote.char then .ok ⟨done.reverse, c, false⟩
      else readWord quote fuel c.next (d :: done)

/-- Reads a text between quotes behind some of its words, from where the next word may start. -/
def readWords (quote : Quote) (start : Mark) : Nat → Cursor → List Char → Except Fault Lexeme
  | 0, c, done => .ok ⟨done, c, false⟩
  | fuel + 1, c, done =>
    if c.isAtDocumentMark then
      .error (.spelling .documentMark c.mark (some (.quotedScalar, start)))
    else if c.rest.isEmpty then
      .error (.spelling .endInQuoted c.mark (some (.quotedScalar, start)))
    else
      match readWord quote (c.rest.length + 1) c [] with
      | .error (cause, place) => .error (.spelling cause place (some (.quotedEscape, start)))
      | .ok w =>
        if w.next.head? = some quote.char then .ok ⟨done ++ w.text, w.next.next, false⟩
        else
          match Gap.read 0 w.next.rest w.next.mark ⟨[], [], w.escapedBreak⟩ with
          | .error place => .error (.spelling .tabInIndentation place (some (.quotedScalar, start)))
          | .ok (gap, next) => readWords quote start fuel next (done ++ w.text ++ gap.text)

def readQuoted (quote : Quote) (c : Cursor) : Except Fault Lexeme :=
  readWords quote c.mark (c.rest.length + 1) c.next []

/-- Reads a word without quotes behind some of its characters, the last of them first. Inside
brackets the marks of lists and maps end it, and a colon right before one is at fault. -/
def readPlainWord (inFlow : Bool) :
    List Char → Mark → List Char → Except Mark (List Char × Cursor)
  | [], mark, done => .ok (done.reverse, ⟨[], mark⟩)
  | c :: rest, mark, done =>
    let stop := .ok (done.reverse, ⟨c :: rest, mark⟩)
    if isBlank c || isBreak c then stop
    else if inFlow && c = ':' && rest.head?.any fun d => isFlowMark d || d = '?' then .error mark
    else if c = ':' && isWordEnd rest || inFlow && isFlowMark c then stop
    else readPlainWord inFlow rest mark.right (c :: done)

/-- Reads words without quotes behind some of them and a gap. Lines that go on stand at least at a
column. -/
def readPlainWords (inFlow : Bool) (indent : Nat) (start : Mark) :
    Nat → Cursor → List Char → Gap → Except Fault Lexeme
  | 0, c, done, gap => .ok ⟨done, c, gap.broken⟩
  | fuel + 1, c, done, gap =>
    if c.isAtDocumentMark || c.head? = some '#' then .ok ⟨done, c, gap.broken⟩
    else
      match readPlainWord inFlow c.rest c.mark [] with
      | .error place => .error (.spelling .colonInFlow place (some (.plainScalar, start)))
      | .ok (word, c) =>
        let (done, gap) : List Char × Gap :=
          if word.isEmpty then (done, gap) else (done ++ gap.text ++ word, ⟨[], [], false⟩)
        if !c.startsWith fun d => isBlank d || isBreak d then .ok ⟨done, c, gap.broken⟩
        else
          match Gap.read indent c.rest c.mark gap with
          | .error place =>
            .error (.spelling .tabInIndentation place (some (.plainScalar, start)))
          | .ok (gap, c) =>
            if !inFlow && c.mark.column < indent then .ok ⟨done, c, gap.broken⟩
            else readPlainWords inFlow indent start fuel c done gap

def readPlain (inFlow : Bool) (indent : Nat) (c : Cursor) : Except Fault Lexeme :=
  readPlainWords inFlow indent c.mark (c.rest.length + 1) c [] ⟨[], [], false⟩

/-- What becomes of the line breaks at the end of a block. -/
inductive Chomping where
  | strip
  | clip
  | keep
  deriving DecidableEq, Repr

/-- The line of a block scalar behind which its lines start. -/
structure BlockHeader where
  chomping : Chomping
  /-- By how much the lines are indented, if that is said. -/
  increment : Option Nat

def chompingOf? (c : Char) : Option Chomping :=
  if c = '+' then some .keep else if c = '-' then some .strip else none

def readIncrement (c : Cursor) : Except (Cause × Mark) (Option Nat × Cursor) :=
  match c.head? with
  | some d =>
    if d = '0' then .error (.zeroIndentation, c.mark)
    else if d.isDigit then .ok (some (d.toNat - '0'.toNat), c.next)
    else .ok (none, c)
  | none => .ok (none, c)

/-- Reads a header behind its first character: a sign and a digit in any order, either of which
may be missing. -/
def readBlockHeader (c : Cursor) : Except (Cause × Mark) (BlockHeader × Cursor) := do
  let (header, c) ← match c.head?.bind chompingOf? with
    | some chomping => do
      let (increment, c) ← readIncrement c.next
      pure (⟨chomping, increment⟩, c)
    | none => do
      let (increment, c) ← readIncrement c
      match increment, c.head?.bind chompingOf? with
      | some _, some chomping => pure (⟨chomping, increment⟩, c.next)
      | _, _ => pure (⟨.clip, increment⟩, c)
  match c.endLine? with
  | some c => pure (header, c)
  | none =>
    let c := c.dropWhile isBlank
    throw (.noLineEnd, c.mark)

/-- The breaks of blank lines, the widest of these lines, and the cursor behind the indentation of
the line after them. Without an indentation all blanks are passed over. -/
def readBlankLines (indent : Option Nat) :
    List Char → Mark → Nat → List Char → Except Mark (Nat × List Char × Cursor)
  | [], mark, widest, breaks => .ok (max widest mark.column, breaks, ⟨[], mark⟩)
  | '\r' :: '\n' :: rest, mark, widest, breaks =>
    readBlankLines indent rest (mark.down 2) (max widest mark.column) (breaks ++ ['\n'])
  | c :: rest, mark, widest, breaks =>
    let isIndentation := indent.all (mark.column < ·)
    if isIndentation && c = ' ' then readBlankLines indent rest mark.right widest breaks
    else if isIndentation && c = '\t' then .error mark
    else if isBreak c then
      readBlankLines indent rest (mark.down 1) (max widest mark.column) (breaks ++ [breakChar c])
    else .ok (max widest mark.column, breaks, ⟨c :: rest, mark⟩)

structure Block where
  text : List Char
  /-- The break of its last line. -/
  last : List Char
  /-- The breaks of the blank lines behind it. -/
  breaks : List Char
  /-- Its last line starts with a blank. -/
  blank : Bool

namespace Block

/-- What the break between two lines becomes. A single one is folded into a blank, and one before
blank lines is dropped, unless a line starts with a blank. -/
def joint (b : Block) (folded blank : Bool) : List Char :=
  if folded && b.last = ['\n'] && !b.blank && !blank then
    if b.breaks.isEmpty then [' '] else []
  else b.last

def chomp (b : Block) : Chomping → List Char
  | .strip => b.text
  | .clip => b.text ++ b.last
  | .keep => b.text ++ b.last ++ b.breaks

end Block

/-- Reads the lines of a block that start at a column. -/
def readBlockLines (folded : Bool) (indent : Nat) :
    Nat → Cursor → Block → Except Mark (Block × Cursor)
  | 0, c, b => .ok (b, c)
  | fuel + 1, c, b =>
    if c.rest.isEmpty || c.mark.column ≠ indent then .ok (b, c)
    else do
      let blank := c.startsWith isBlank
      let (last, next) := c.dropLine.readBreak
      let (_, breaks, next) ← readBlankLines (some indent) next.rest next.mark 0 []
      readBlockLines folded indent fuel next
        ⟨b.text ++ b.joint folded blank ++ b.breaks ++ c.line, last.toList, breaks, blank⟩

/-- Reads a block from its first character on. Its lines stand at least at a column. -/
def readBlock (folded : Bool) (indent : Nat) (c : Cursor) : Except Fault Lexeme :=
  let fail (cause : Cause) (place : Mark) : Fault :=
    .spelling cause place (some (.blockScalar, c.mark))
  match readBlockHeader c.next with
  | .error (cause, place) => .error (fail cause place)
  | .ok (header, next) =>
    let stated := header.increment.map fun n => if indent = 0 then n else indent - 1 + n
    let block := do
      let (widest, breaks, next) ← readBlankLines stated next.rest next.mark 0 []
      let column := stated.getD (max 1 (max indent widest))
      readBlockLines folded column (next.rest.length + 1) next ⟨[], [], breaks, false⟩
    match block with
    | .error place => .error (fail .tabForSpace place)
    | .ok (b, next) => .ok ⟨b.chomp header.chomping, next, false⟩

end CleanSql.Yaml
