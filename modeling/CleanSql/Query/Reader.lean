import CleanSql.Query.Rules
import CleanSql.Query.Token

/-!
# Readers of tokens

A reader takes tokens off the front of a query or says what is wrong with it. What is read is not
kept, but for what a select list holds.
-/
namespace CleanSql.Query

abbrev Reader (α : Type) := StateT (List PlacedToken) (Except QueryFault) α

def peek : Reader (Option PlacedToken) := do pure (← get).head?

def nextToken : Reader (Option Token) := do
  let t ← peek
  pure (t.map fun t => t.token)

def advance : Reader Unit := modify fun ts => ts.drop 1

/-- Something else is wanted in the place of the next token. -/
def expected {α : Type} (what : String) : Reader α := do throw (.expected what (← peek))

/-- Reads, or stays where it is if that fails; nesting that is too deep is never passed over. -/
def attempt {α : Type} (read : Reader α) : Reader (Option α) := fun ts =>
  match read ts with
  | .ok (a, rest) => .ok (some a, rest)
  | .error .tooDeep => .error .tooDeep
  | .error _ => .ok (none, ts)

/-- Reads in one way or, if that fails, in another; if both fail, the first tells why. -/
def orElse {α : Type} (read other : Reader α) : Reader α := fun ts =>
  match read ts with
  | .ok result => .ok result
  | .error .tooDeep => .error .tooDeep
  | .error fault =>
    match other ts with
    | .ok result => .ok result
    | .error .tooDeep => .error .tooDeep
    | .error _ => .error fault

def isSymbol (shape : String) (t : PlacedToken) : Bool := t.token = .symbol shape

def isKeyword (names : List String) (t : PlacedToken) : Bool := t.token.keyword?.any names.contains

/-- Whether the token so many places ahead is a certain symbol. -/
def seesSymbol (shape : String) (ahead : Nat := 0) : Reader Bool := do
  pure ((← get)[ahead]?.any (isSymbol shape))

/-- Whether the token so many places ahead is one of several keywords. -/
def seesKeyword (names : List String) (ahead : Nat := 0) : Reader Bool := do
  pure ((← get)[ahead]?.any (isKeyword names))

def symbol? (shape : String) : Reader Bool := do
  if ← seesSymbol shape then advance; pure true else pure false

def symbol (shape : String) : Reader Unit := do
  if ← symbol? shape then pure () else expected shape

def keyword? (name : String) : Reader Bool := do
  if ← seesKeyword [name] then advance; pure true else pure false

def keyword (name : String) : Reader Unit := do
  if ← keyword? name then pure () else expected name

def oneOf? (names : List String) : Reader Bool := do
  if ← seesKeyword names then advance; pure true else pure false

/-- Takes keywords that stand one behind the other, if all are there. -/
def phrase? (names : List String) : Reader Bool := do
  let ts ← get
  if ts.length ≥ names.length && (ts.zip names).all fun (t, name) => isKeyword [name] t then
    set (ts.drop names.length)
    pure true
  else pure false

def phrase : List String → Reader Unit
  | [] => pure ()
  | name :: rest => do keyword name; phrase rest

def identifier : Reader Unit := do
  match ← nextToken with
  | some (.word _ _) | some (.text _) | some (.doubleQuoted _) => advance
  | _ => expected "identifier"

/-- Repeats a reader of what may follow while it finds something, so many times at most. -/
def repeatWhile (read : Reader Bool) : Nat → Reader Unit
  | 0 => pure ()
  | n + 1 => do if ← read then repeatWhile read n else pure ()

/-- Repeats a reader of what may follow while it finds something. -/
def whileFound (read : Reader Bool) : Reader Unit := do repeatWhile read (← get).length

def qualifiedName : Reader Unit := do
  identifier
  whileFound do
    if ← symbol? "." then identifier; pure true else pure false

/-- Whether a list ends behind an element; if a comma may end it, that comma is taken. -/
def listEnds (trailing : Bool) (stops : List String) : Reader Bool := do
  if ← symbol? "," then
    if trailing then
      match ← nextToken with
      | none => pure true
      | some (.symbol s) => pure ([")", ";", "]", "\x7d"].contains s)
      | some t => pure (t.keyword?.any stops.contains)
    else pure false
  else pure true

/-- So many elements at most with commas between them. -/
def separated {α : Type} (trailing : Bool) (stops : List String) (read : Reader α) :
    Nat → Reader (List α)
  | 0 => do pure [← read]
  | n + 1 => do
    let a ← read
    if ← listEnds trailing stops then pure [a]
    else do pure (a :: (← separated trailing stops read n))

def commaList {α : Type} (r : Rules) (read : Reader α) : Reader (List α) := do
  separated r.trailingCommas r.noColumnName read (← get).length

end CleanSql.Query
