import CleanSql.Toml.Token

/-!
# Statements

The tokens of a text as headers of tables and entries, with keys and scalars as they are written.
A key or a scalar may be empty where one is due and missing.
-/
namespace CleanSql.Toml

/-- A key or a scalar as it is written. -/
structure Word where
  start : Nat
  text : List Char
  quotes : Option Quotes
  deriving DecidableEq, Repr

namespace Word

def span (w : Word) : Span := ⟨w.start, w.start + byteSize w.text⟩

def missing (t : Token) : Word := ⟨t.start, [], none⟩

end Word

abbrev DottedKey := List Word

inductive Expr where
  | scalar (word : Word)
  | list (span : Span) (items : List Expr)
  | table (span : Span) (entries : List (DottedKey × Expr))

inductive Statement where
  /-- The header of a table, or of the next table in a list. -/
  | header (span : Span) (inList : Bool) (key : DottedKey)
  | entry (key : DottedKey) (value : Expr)

def fail {α : Type} (cause : Cause) (span : Span) : Except Fault α := .error ⟨cause, span⟩

/-- The first token; behind the last one there are more of its kind. -/
def first (ts : List Token) : Token := ts.headD ⟨.stop, 0, []⟩

def skipBlanks (ts : List Token) : List Token := ts.dropWhile fun t => t.kind = .blank

def isCommentChar (c : Char) : Bool := c = '\t' || 0x20 ≤ c.toNat && c.toNat ≠ 0x7F

/-- Comments hold no control characters, and a carriage return belongs to a line feed. -/
def checkTrivia (t : Token) : Except Fault Unit :=
  match t.kind with
  | .comment =>
    let good := t.text.takeWhile isCommentChar
    if good.length = t.text.length then .ok ()
    else fail .controlInComment (.point (t.start + byteSize good))
  | .newline => if t.text = ['\r'] then fail .loneReturn t.after else .ok ()
  | _ => .ok ()

/-- The word that a token is, if it can be part of a key. -/
def Token.word? (t : Token) : Option Word :=
  match t.kind with
  | .text quotes => some ⟨t.start, t.text, some quotes⟩
  | .bare => some ⟨t.start, t.text, none⟩
  | _ => none

mutual

/-- The parts of a key behind one of them, and whether none is missing at its end. -/
def keyTail : List Token → DottedKey × Bool × List Token
  | [] => ([], true, [])
  | t :: ts =>
    match t.kind with
    | .blank => keyTail ts
    | .dot => keyPart ts
    | _ => ([], true, t :: ts)

/-- The parts of a key from where a part is due. -/
def keyPart : List Token → DottedKey × Bool × List Token
  | [] => ([], false, [])
  | t :: ts =>
    match t.kind with
    | .blank => keyPart ts
    | .dot =>
      let (rest, complete, ts) := keyPart ts
      (.missing t :: rest, complete, ts)
    | _ =>
      match t.word? with
      | some w =>
        let (rest, complete, ts) := keyTail ts
        (w :: rest, complete, ts)
      | none => ([.missing t], false, t :: ts)

end

/-- The tokens behind a key, which an equals sign comes next to. -/
def afterKey (ts : List Token) : Except Fault (List Token) :=
  let ts := skipBlanks ts
  match ts with
  | ⟨.equals, _, _⟩ :: ts => .ok ts
  | _ => fail .noEquals (first ts).before

/-- A scalar without quotes: bare tokens and dots, with a blank between words. -/
def joinBare : List Char → List Token → List Char × List Token
  | done, [] => (done, [])
  | done, [t] => if t.kind = .dot || t.word?.isSome then (done ++ t.text, []) else (done, [t])
  | done, t :: u :: ts =>
    if t.kind = .dot || t.word?.isSome then joinBare (done ++ t.text) (u :: ts)
    else if t.kind = .blank && u.kind = .bare then joinBare (done ++ t.text ++ u.text) ts
    else (done, t :: u :: ts)

/-- How deep lists and tables may be inside of each other. -/
def depthLimit : Nat := 80

inductive Due where
  | key
  | equals (key : DottedKey)
  | value (key : DottedKey)
  | comma
  deriving DecidableEq, Repr

/-- What is wrong with another word or bracket where something is due. -/
def Due.missing? : Due → Option Cause
  | key => none
  | equals _ => some .noEntryEquals
  | value _ => none
  | comma => some .noEntryComma

mutual

def parseValue : Nat → Nat → List Token → Except Fault (Expr × List Token)
  | 0, _, ts => .ok (.scalar (.missing (first ts)), ts)
  | fuel + 1, depth, ts =>
    match ts with
    | [] => .ok (.scalar (.missing (first ts)), ts)
    | t :: rest =>
      match t.kind with
      | .equals => fail .extraEquals t.span
      | .closeBrace => fail .noInlineStart t.before
      | .closeBracket => fail .noListStart t.before
      | .openBracket =>
        if depth < depthLimit then parseList fuel (depth + 1) t false [] rest
        else fail .tooDeep t.span
      | .openBrace =>
        if depth < depthLimit then parseInline fuel (depth + 1) t .key [] rest
        else fail .tooDeep t.span
      | .text quotes => .ok (.scalar ⟨t.start, t.text, some quotes⟩, rest)
      | .dot | .bare =>
        let (text, rest) := joinBare t.text rest
        .ok (.scalar ⟨t.start, text, none⟩, rest)
      | .blank => parseValue fuel depth rest
      | .comma | .comment | .newline | .stop => .ok (.scalar (.missing t), ts)

/-- The items of a list behind some of them, the last of them first. The flag tells that a comma
is due. -/
def parseList :
    Nat → Nat → Token → Bool → List Expr → List Token → Except Fault (Expr × List Token)
  | 0, _, opening, _, done, ts => .ok (.list opening.span done.reverse, ts)
  | fuel + 1, depth, opening, commaDue, done, ts =>
    match ts with
    | [] => .ok (.list opening.span done.reverse, [])
    | t :: rest =>
      match t.kind with
      | .blank | .comment | .newline => do
        checkTrivia t
        parseList fuel depth opening commaDue done rest
      | .stop => fail .noList t.span
      | .comma =>
        if commaDue then parseList fuel depth opening false done rest
        else fail .extraComma t.span
      | .equals => fail .equalsInList t.span
      | .closeBracket => .ok (.list (opening.span.through t.span) done.reverse, rest)
      | _ => do
        if commaDue then fail .noItemComma t.before
        let (item, rest) ← parseValue fuel depth ts
        parseList fuel depth opening true (item :: done) rest

/-- The entries of an inline table behind some of them, the last of them first. -/
def parseInline :
    Nat → Nat → Token → Due → List (DottedKey × Expr) → List Token →
      Except Fault (Expr × List Token)
  | 0, _, opening, _, done, ts => .ok (.table opening.span done.reverse, ts)
  | fuel + 1, depth, opening, due, done, ts =>
    match ts with
    | [] => .ok (.table opening.span done.reverse, [])
    | t :: rest =>
      match t.kind with
      | .blank | .comment | .newline => do
        checkTrivia t
        parseInline fuel depth opening due done rest
      | .stop => fail .noInline t.span
      | .comma =>
        match due with
        | .comma => parseInline fuel depth opening .key done rest
        | .equals _ => fail .noEntryEquals t.before
        | _ => fail .extraEntryComma t.before
      | .equals =>
        match due with
        | .key => parseInline fuel depth opening (.value [.missing t]) done rest
        | .equals key => parseInline fuel depth opening (.value key) done rest
        | _ => fail .extraEntryEquals t.before
      | .closeBrace =>
        let span := opening.span.through t.span
        match due with
        | .equals _ => fail .noEntryEquals t.before
        | .value key => .ok (.table span ((key, .scalar (.missing t)) :: done).reverse, rest)
        | _ => .ok (.table span done.reverse, rest)
      | _ =>
        match due with
        | .value key => do
          let (value, rest) ← parseValue fuel depth ts
          parseInline fuel depth opening .comma ((key, value) :: done) rest
        | .key =>
          match t.kind with
          | .openBracket | .openBrace | .closeBracket => fail .noEntryKey t.before
          | _ =>
            let (key, _, rest) := if t.kind = .dot then
                let (tail, complete, rest) := keyPart rest
                (.missing t :: tail, complete, rest)
              else keyPart ts
            parseInline fuel depth opening (.equals key) done rest
        | due => fail (due.missing?.getD .noEntryComma) t.before

end

def endLine : List Token → Except Fault (List Token)
  | [] => .ok []
  | t :: ts =>
    match t.kind with
    | .blank => endLine ts
    | .comment => do
      checkTrivia t
      pure ts
    | .newline => do
      checkTrivia t
      pure ts
    | .stop => .ok (t :: ts)
    | _ => fail .afterLine t.before

def Token.endsLine (t : Token) : Bool := t.kind = .newline || t.kind = .stop

/-- A header behind its opening bracket. The rest of its line is passed over where its key is
missing, which is at fault later. -/
def parseHeader (opening : Token) (ts : List Token) :
    Except Fault (Statement × List Token) := do
  let (inList, ts) := match ts with
    | ⟨.openBracket, _, _⟩ :: ts => (true, ts)
    | ts => (false, ts)
  let (key, complete, behind) := keyPart ts
  let last := (ts.take (ts.length - behind.length)).reverse.find? fun t => t.kind ≠ .blank
  match skipBlanks behind with
  | ⟨.closeBracket, start, text⟩ :: rest =>
    let closing : Token := ⟨.closeBracket, start, text⟩
    if inList then
      match rest with
      | ⟨.closeBracket, start, text⟩ :: rest =>
        let second : Token := ⟨.closeBracket, start, text⟩
        pure (.header (opening.span.through second.span) true key, rest)
      | _ => fail .noListTableBracket closing.after
    else pure (.header (opening.span.through closing.span) false key, rest)
  | rest =>
    if complete then
      fail (if inList then .noListTableEnd else .noTableEnd) (last.getD opening).after
    else pure (.header opening.span inList key, rest.dropWhile fun t => !t.endsLine)

def parseStatements : Nat → List Token → Except Fault (List Statement)
  | 0, _ => .ok []
  | fuel + 1, ts =>
    match ts with
    | [] => .ok []
    | t :: rest =>
      let entry (key : DottedKey) (ts : List Token) : Except Fault (List Statement) := do
        let (value, ts) ← parseValue (2 * ts.length + 2) 0 (skipBlanks ts)
        let ts ← endLine ts
        let more ← parseStatements fuel ts
        pure (.entry key value :: more)
      match t.kind with
      | .stop => .ok []
      | .blank | .newline | .comment => do
        checkTrivia t
        parseStatements fuel rest
      | .openBracket => do
        let (header, ts) ← parseHeader t rest
        let ts ← endLine ts
        let more ← parseStatements fuel ts
        pure (header :: more)
      | .closeBracket => fail .noTableStart t.before
      | .comma | .openBrace | .closeBrace => fail .noKeyBefore t.before
      | .equals => entry [.missing t] rest
      | .dot => do
        let (tail, _, ts) := keyPart rest
        entry (.missing t :: tail) (← afterKey ts)
      | .text _ | .bare => do
        let (key, _, ts) := keyPart (t :: rest)
        entry key (← afterKey ts)

def statements (text : String) : Except Fault (List Statement) :=
  let ts := tokens text
  parseStatements ts.length ts

end CleanSql.Toml
