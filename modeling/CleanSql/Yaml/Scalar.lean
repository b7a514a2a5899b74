import CleanSql.Number.Numeral

/-!
# Scalars

How texts are written in YAML, the characters that end lines and words, and what a scalar without
quotes stands for: nothing, a truth value, a number, or its own text.
-/
namespace CleanSql.Yaml

/-- The ways to write a text: as it is, between quotes, and as a block of indented lines, whose
line breaks are kept or folded. -/
inductive Style where
  | plain
  | single
  | double
  | literal
  | folded
  deriving DecidableEq, Repr

def isBreak (c : Char) : Bool :=
  c = '\n' || c = '\r' || c = '\x85' || c = '\u2028' || c = '\u2029'

def isBlank (c : Char) : Bool := c = ' ' || c = '\t'

def isWordEnd (cs : List Char) : Bool := cs.head?.all fun c => isBlank c || isBreak c

inductive Meaning where
  | null
  | bool (value : Bool)
  | int (value : Int)
  | float (value : Float)
  | text

def nullOf? (s : String) : Option Unit :=
  if ["null", "Null", "NULL", "~"].contains s then some () else none

def boolOf? (s : String) : Option Bool :=
  if ["true", "True", "TRUE"].contains s then some true
  else if ["false", "False", "FALSE"].contains s then some false
  else none

/-- A zero before further digits, with or without a sign, makes a text and not a number. -/
def isDigitsNotNumber (cs : List Char) : Bool :=
  let body := match cs with
    | '+' :: rest => rest
    | '-' :: rest => rest
    | _ => cs
  match body with
  | '0' :: rest => !rest.isEmpty && rest.all Char.isDigit
  | _ => false

/-- The digits after a mark of base sixteen, eight or two. -/
def basedDigits? : List Char → Option (Nat × List Char)
  | '0' :: 'x' :: rest => some (16, rest)
  | '0' :: 'o' :: rest => some (8, rest)
  | '0' :: 'b' :: rest => some (2, rest)
  | _ => none

def naturalOf? (s : String) : Option Nat :=
  let cs := s.toList
  let body := match cs with
    | '+' :: rest => rest
    | _ => cs
  match (basedDigits? body).bind fun (base, digits) => Number.natOfDigits? base digits with
  | some n => some n
  | none =>
    if isDigitsNotNumber cs then none else Number.natOfDigits? 10 body

def negativeOf? (s : String) : Option Nat :=
  match s.toList with
  | '-' :: body =>
    match (basedDigits? body).bind fun (base, digits) => Number.natOfDigits? base digits with
    | some n => some n
    | none => if isDigitsNotNumber s.toList then none else Number.natOfDigits? 10 body
  | _ => none

/-- A decimal numeral that is not a whole number, or is one too large for a word. -/
def numeralOf? (cs : List Char) : Option Number.Numeral :=
  let (negative, body) := match cs with
    | '+' :: rest => (false, rest)
    | '-' :: rest => (true, rest)
    | _ => (false, cs)
  let whole := body.takeWhile Char.isDigit
  let afterWhole := body.dropWhile Char.isDigit
  let (fraction, rest) := match afterWhole with
    | '.' :: r => (r.takeWhile Char.isDigit, r.dropWhile Char.isDigit)
    | r => ([], r)
  if whole.isEmpty && fraction.isEmpty then none
  else
    match rest with
    | [] => some ⟨negative, whole, fraction, 0⟩
    | mark :: r =>
      if mark = 'e' ∨ mark = 'E' then
        let (minus, digits) := match r with
          | '+' :: ds => (false, ds)
          | '-' :: ds => (true, ds)
          | ds => (false, ds)
        if digits.all Char.isDigit then
          (Number.natOfDigits? 10 digits).map fun e =>
            ⟨negative, whole, fraction, if minus then -e else e⟩
        else none
      else none

def floatOf? (s : String) : Option Float :=
  let cs := s.toList
  let unsigned := match cs with
    | '+' :: rest => rest
    | _ => cs
  if cs.head? = some '+' && (unsigned.head? = some '+' || unsigned.head? = some '-') then none
  else if [".inf", ".Inf", ".INF"].contains (String.ofList unsigned) then some (1.0 / 0.0)
  else if ["-.inf", "-.Inf", "-.INF"].contains s then some (-1.0 / 0.0)
  else if [".nan", ".NaN", ".NAN"].contains s then some (0.0 / 0.0)
  else
    (numeralOf? unsigned).bind fun n =>
      let x := n.toFloat
      if x.isFinite then some x else none

/-- The largest whole numbers that have a meaning as such. -/
def largestInt : Nat := Nat.pow 2 128

def Meaning.wholeOf? (s : String) : Option Int :=
  match naturalOf? s with
  | some n => if n < largestInt then some n else none
  | none =>
    match negativeOf? s with
    | some n => if n ≤ largestInt / 2 then some (-n) else none
    | none => none

def Meaning.of (s : String) : Meaning :=
  if s = "" ∨ (nullOf? s).isSome then .null
  else
    match boolOf? s, wholeOf? s with
    | some b, _ => .bool b
    | none, some n => .int n
    | none, none =>
      if isDigitsNotNumber s.toList then .text
      else
        match floatOf? s with
        | some x => .float x
        | none => .text

end CleanSql.Yaml
