import CleanSql.Yaml.Lexeme.Property

/-!
# Tokens

A text as a stream of tokens, read as far as they are asked for. Indentation becomes tokens too:
where lines are indented further a block starts, and it ends before the first line that is
indented less. A scalar turns out to be a key when a colon follows it, so a token that may start a
key is held back until that is settled.
-/
namespace CleanSql.Yaml

inductive TokenKind where
  | streamEnd
  | directive (directive : Directive)
  | documentStart
  | documentEnd
  | blockListStart
  | blockMapStart
  | blockEnd
  | flowListStart
  | flowListEnd
  | flowMapStart
  | flowMapEnd
  | blockEntry
  | flowEntry
  | key
  | value
  | reference (name : String)
  | anchor (name : String)
  | tag (handle suffix : String)
  | scalar (style : Style) (text : String)
  deriving DecidableEq, Repr

structure Token where
  kind : TokenKind
  start : Mark
  deriving DecidableEq, Repr

namespace Token

def stop (t : Token) : Mark := t.start.right

end Token

/-- A token that may turn out to start a key. -/
structure KeyCandidate where
  /-- At this place nothing but a key may stand. -/
  required : Bool
  /-- How many tokens are before it. -/
  number : Nat
  place : Mark

/-- What is left of a text, with the tokens that were read ahead. -/
structure TokenStream where
  cursor : Cursor
  queue : List Token := []
  /-- How many tokens have been taken. -/
  taken : Nat := 0
  /-- The least column of what the innermost block holds. -/
  indent : Nat := 0
  indents : List Nat := []
  /-- The candidate of the innermost pair of brackets. -/
  candidate : Option KeyCandidate := none
  /-- The candidates of the brackets around it. -/
  outer : List (Option KeyCandidate) := []
  keyAllowed : Bool := true

namespace TokenStream

def inFlow (s : TokenStream) : Bool := !s.outer.isEmpty

def push (s : TokenStream) (kind : TokenKind) (place : Mark) : TokenStream :=
  { s with queue := s.queue ++ [⟨kind, place⟩] }

def insert (s : TokenStream) (number : Nat) (kind : TokenKind) (place : Mark) : TokenStream :=
  let n := number - s.taken
  { s with queue := s.queue.take n ++ ⟨kind, place⟩ :: s.queue.drop n }

def fail {α : Type} (s : TokenStream) (cause : Cause) : Except Fault α :=
  .error (.spelling cause s.cursor.mark none)

/-- Starts a block at a column if it is indented further; its token goes to the end or before a
token that is held back. -/
def openBlock (s : TokenStream) (number : Option Nat) (kind : TokenKind) (place : Mark) :
    TokenStream :=
  if s.inFlow || place.column < s.indent then s
  else
    let s := { s with indents := s.indent :: s.indents, indent := place.column + 1 }
    match number with
    | none => s.push kind place
    | some n => s.insert n kind place

def closeBlocks (s : TokenStream) (column : Nat) : TokenStream :=
  if s.inFlow then s else go s.indents s
where
  go : List Nat → TokenStream → TokenStream
    | [], s => s
    | outer :: indents, s =>
      if s.indent ≤ column then s
      else go indents ({ s with indent := outer, indents := indents }.push .blockEnd s.cursor.mark)

/-- Keys stand on one line and are not too long. -/
def KeyCandidate.isStale (k : KeyCandidate) (now : Mark) : Bool :=
  k.place.line < now.line || k.place.index + 1024 < now.index

/-- Settles that a candidate is no key. -/
def reject (s : TokenStream) (k : KeyCandidate) : Except Fault (Option KeyCandidate) :=
  if k.required then
    .error (.spelling .noColon s.cursor.mark (some (.simpleKey, k.place)))
  else .ok none

def rejectStale (s : TokenStream) : Option KeyCandidate → Except Fault (Option KeyCandidate)
  | some k => if KeyCandidate.isStale k s.cursor.mark then s.reject k else .ok (some k)
  | none => .ok none

/-- Settles that the candidates that are too far away are no keys, the outermost first. -/
def dropStale (s : TokenStream) : Except Fault TokenStream := do
  let outer ← s.outer.reverse.mapM s.rejectStale
  let candidate ← s.rejectStale s.candidate
  pure { s with candidate := candidate, outer := outer.reverse }

def dropCandidate (s : TokenStream) : Except Fault TokenStream :=
  match s.candidate with
  | none => .ok s
  | some k => do
    let candidate ← s.reject k
    pure { s with candidate := candidate }

/-- Makes the next token the innermost candidate where keys are allowed. -/
def propose (s : TokenStream) : Except Fault TokenStream :=
  if !s.keyAllowed then .ok s
  else do
    let place := s.cursor.mark
    let s ← s.dropCandidate
    pure { s with
      candidate := some
        { required := !s.inFlow && s.indent = place.column + 1
          number := s.taken + s.queue.length
          place := place } }

/-- Passes over blanks, comments and line breaks. Behind a line break a key is allowed again;
there, tabs are no blanks. -/
def skipBlanks : Nat → TokenStream → TokenStream
  | 0, s => s
  | fuel + 1, s =>
    let c := s.cursor
    let c := if c.mark.index = 0 && c.head? = some '\uFEFF' then c.next else c
    let c := c.dropWhile fun d => d = ' ' || (s.inFlow || !s.keyAllowed) && d = '\t'
    let c := if c.head? = some '#' then c.dropLine else c
    match c.readBreak with
    | (some _, next) =>
      skipBlanks fuel { s with cursor := next, keyAllowed := s.keyAllowed || !s.inFlow }
    | (none, _) => { s with cursor := c }

def take (s : TokenStream) (n : Nat) (kind : TokenKind) : TokenStream :=
  { s.push kind s.cursor.mark with cursor := s.cursor.skip n }

/-- The end of a text is at the start of a line. -/
def readEnd (s : TokenStream) : Except Fault TokenStream := do
  let mark := s.cursor.mark
  let mark := if mark.column = 0 then mark else mark.down 0
  let s ← ({ s with cursor := ⟨[], mark⟩ }.closeBlocks 0).dropCandidate
  pure ({ s with keyAllowed := false }.push .streamEnd mark)

def readDirective (s : TokenStream) : Except Fault TokenStream := do
  let s ← (s.closeBlocks 0).dropCandidate
  let (directive, next) ← Yaml.readDirective s.cursor
  pure { s.push (.directive directive) s.cursor.mark with cursor := next, keyAllowed := false }

def takeSeparator (s : TokenStream) (kind : TokenKind) : Except Fault TokenStream := do
  let s ← (s.closeBlocks 0).dropCandidate
  pure { s.take 3 kind with keyAllowed := false }

/-- Takes an opening bracket, which may start a key and behind which a key may start. -/
def takeOpening (s : TokenStream) (kind : TokenKind) : Except Fault TokenStream := do
  let s ← s.propose
  pure { s.take 1 kind with candidate := none, outer := s.candidate :: s.outer, keyAllowed := true }

def takeClosing (s : TokenStream) (kind : TokenKind) : Except Fault TokenStream := do
  let s ← s.dropCandidate
  let s := match s.outer with
    | candidate :: outer => { s with candidate := candidate, outer := outer }
    | [] => s
  pure { s.take 1 kind with keyAllowed := false }

def takeFlowEntry (s : TokenStream) : Except Fault TokenStream := do
  let s ← s.dropCandidate
  pure { s.take 1 .flowEntry with keyAllowed := true }

def takeBlockEntry (s : TokenStream) : Except Fault TokenStream := do
  if !s.inFlow && !s.keyAllowed then s.fail .entryNotAllowed
  let s ← (s.openBlock none .blockListStart s.cursor.mark).dropCandidate
  pure { s.take 1 .blockEntry with keyAllowed := true }

def takeKey (s : TokenStream) : Except Fault TokenStream := do
  if !s.inFlow && !s.keyAllowed then s.fail .keyNotAllowed
  let s ← (s.openBlock none .blockMapStart s.cursor.mark).dropCandidate
  pure { s.take 1 .key with keyAllowed := !s.inFlow }

/-- Takes the colon before a value. It makes the innermost candidate a key. -/
def takeValue (s : TokenStream) : Except Fault TokenStream :=
  match s.candidate with
  | some k =>
    let s := (s.insert k.number .key k.place).openBlock (some k.number) .blockMapStart k.place
    .ok { s.take 1 .value with candidate := none, keyAllowed := false }
  | none => do
    if !s.inFlow && !s.keyAllowed then s.fail .valueNotAllowed
    let s := s.openBlock none .blockMapStart s.cursor.mark
    pure { s.take 1 .value with keyAllowed := !s.inFlow }

/-- Reads an anchor, an alias or a tag, each of which may start a key. -/
def readProperty (s : TokenStream) (read : Cursor → Except Fault (TokenKind × Cursor)) :
    Except Fault TokenStream := do
  let s ← s.propose
  let (kind, next) ← read s.cursor
  pure { s.push kind s.cursor.mark with cursor := next, keyAllowed := false }

def readScalar (s : TokenStream) (style : Style) (read : Cursor → Except Fault Lexeme) :
    Except Fault TokenStream := do
  let s ← s.propose
  let l ← read s.cursor
  pure { s.push (.scalar style (String.ofList l.text)) s.cursor.mark with
    cursor := l.next, keyAllowed := l.brokenAfter }

def readBlock (s : TokenStream) (style : Style) : Except Fault TokenStream := do
  let s ← s.dropCandidate
  let l ← Yaml.readBlock (style = .folded) s.indent s.cursor
  pure { s.push (.scalar style (String.ofList l.text)) s.cursor.mark with
    cursor := l.next, keyAllowed := true }

def isIndicator (c : Char) : Bool := "-?:,[]\x7b\x7d#&*!|>'\"%@\x60".contains c

def isPlainStart (inFlow : Bool) : List Char → Bool
  | [] => false
  | c :: rest =>
    !(isBlank c || isBreak c || isIndicator c)
      || c = '-' && !rest.head?.any isBlank
      || !inFlow && (c = '?' || c = ':') && !isWordEnd rest

def readToken (s : TokenStream) : Except Fault TokenStream :=
  let c := s.cursor
  let behind := c.rest.drop 1
  match c.rest with
  | [] => s.readEnd
  | d :: _ =>
    if c.mark.column = 0 && d = '%' then s.readDirective
    else if c.isAtSeparator '-' then s.takeSeparator .documentStart
    else if c.isAtSeparator '.' then s.takeSeparator .documentEnd
    else if d = '[' then s.takeOpening .flowListStart
    else if d = '\x7b' then s.takeOpening .flowMapStart
    else if d = ']' then s.takeClosing .flowListEnd
    else if d = '\x7d' then s.takeClosing .flowMapEnd
    else if d = ',' then s.takeFlowEntry
    else if d = '-' && isWordEnd behind then s.takeBlockEntry
    else if d = '?' && (s.inFlow || isWordEnd behind) then s.takeKey
    else if d = ':' && (s.inFlow || isWordEnd behind) then s.takeValue
    else if d = '*' then
      s.readProperty fun c => (readAnchorName .reference c).map fun (name, next) => (.reference name, next)
    else if d = '&' then
      s.readProperty fun c => (readAnchorName .anchor c).map fun (name, next) => (.anchor name, next)
    else if d = '!' then
      s.readProperty fun c =>
        (readTag s.inFlow c).map fun (handle, suffix, next) => (.tag handle suffix, next)
    else if d = '|' && !s.inFlow then s.readBlock .literal
    else if d = '>' && !s.inFlow then s.readBlock .folded
    else if d = '\'' then s.readScalar Quote.single.style (readQuoted .single)
    else if d = '"' then s.readScalar Quote.double.style (readQuoted .double)
    else if isPlainStart s.inFlow c.rest then s.readScalar .plain (readPlain s.inFlow s.indent)
    else .error (.spelling .noToken c.mark (some (.nextToken, c.mark)))

/-- Reads the next token, with the ends of the blocks before it. -/
def readNext (s : TokenStream) : Except Fault TokenStream := do
  let s ← (s.skipBlanks (s.cursor.rest.length + 1)).dropStale
  (s.closeBlocks (s.cursor.mark.column + 1)).readToken

/-- Whether the first token may still turn out to start a key. -/
def isHeld (s : TokenStream) : Bool :=
  (s.candidate :: s.outer).any fun k => k.any (·.number = s.taken)

/-- Reads ahead until the first token is settled. -/
def fill : Nat → TokenStream → Except Fault TokenStream
  | 0, s => .ok s
  | fuel + 1, s =>
    if s.queue.isEmpty then do fill fuel (← s.readNext)
    else do
      let s ← s.dropStale
      if s.isHeld then fill fuel (← s.readNext) else pure s

def peek (s : TokenStream) : Except Fault (Token × TokenStream) := do
  let s ← fill (s.cursor.rest.length + 3) s
  match s.queue with
  | [] => pure (⟨.streamEnd, s.cursor.mark⟩, s)
  | t :: _ => pure (t, s)

def drop (s : TokenStream) : TokenStream :=
  { s with queue := s.queue.drop 1, taken := s.taken + 1 }

end TokenStream

end CleanSql.Yaml
