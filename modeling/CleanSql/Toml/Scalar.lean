import CleanSql.Toml.Moment
import CleanSql.Toml.Statement

/-!
# Keys and scalars

What words stand for: names, texts, numbers, flags, dates and times.
-/
namespace CleanSql.Toml

inductive Scalar where
  | text (value : String)
  /-- A whole number; none if no number has these digits. -/
  | integer (value : Option Int)
  /-- A number with a fraction; none if it is too large. -/
  | float (value : Option Float)
  | bool (value : Bool)
  | moment

namespace Word

/-- A fault at a part of a word, in bytes from its start. -/
def fail {α : Type} (w : Word) (cause : Cause) (start stop : Nat) : Except Fault α :=
  Toml.fail cause ⟨w.start + start, w.start + stop⟩

def size (w : Word) : Nat := byteSize w.text

def failAll {α : Type} (w : Word) (cause : Cause) : Except Fault α := w.fail cause 0 w.size

end Word

def simpleEscape? (c : Char) : Option Char :=
  match c with
  | 'b' => some '\x08'
  | 'e' => some '\x1b'
  | 'f' => some '\x0c'
  | 'n' => some '\n'
  | 'r' => some '\r'
  | 't' => some '\t'
  | '\\' => some '\\'
  | '"' => some '"'
  | _ => none

/-- How many digits of a code point follow a letter after a backslash. -/
def codeLength? (c : Char) : Option Nat :=
  match c with
  | 'x' => some 2
  | 'u' => some 4
  | 'U' => some 8
  | _ => none

/-- Reads an escape behind its backslash, at a place in a word. -/
def readEscape (w : Word) (place : Nat) : List Char → Except Fault (Char × List Char)
  | [] => w.fail .badEscape place place
  | letter :: rest =>
    match simpleEscape? letter with
    | some c => .ok (c, rest)
    | none =>
      match codeLength? letter with
      | none => w.fail .badEscape place place
      | some n =>
        let digits := (rest.take n).takeWhile fun d => (Number.digitValue? d).isSome
        if digits.length < n then w.fail .shortCode (place + 1) (place + 1)
        else
          let code := (Number.natOfDigits? 16 digits).getD 0
          if h : code.isValidChar then .ok (Char.ofNatAux code h, rest.drop n)
          else w.fail .badCode (place + 1) (place + 1)

/-- The characters that may stand in a text as they are. -/
def isTextChar (c : Char) : Bool := c = '\t' || 0x20 ≤ c.toNat && c.toNat ≠ 0x7F

/-- Reads the characters of a text between quotes, which are at a place in a word. -/
def readText (w : Word) (quotes : Quotes) :
    Nat → Nat → List Char → List Char → Except Fault (List Char)
  | 0, _, _, done => .ok done.reverse
  | _, _, [], done => .ok done.reverse
  | fuel + 1, place, c :: rest, done =>
    let escapes := quotes = .basic || quotes = .multilineBasic
    let multiline := quotes = .multilineLiteral || quotes = .multilineBasic
    let isGood (d : Char) : Bool := isTextChar d || multiline && (d = '\n' || d = '\r')
    if escapes && c = '\\' then
      let blanks := rest.takeWhile fun d => d = ' ' || d = '\t'
      let behind := rest.drop blanks.length
      let isLineEnd := behind.head? = some '\n' || behind.take 2 = ['\r', '\n']
      if multiline && isLineEnd then
        let skipped := rest.takeWhile fun d => d = ' ' || d = '\t' || d = '\n' || d = '\r'
        readText w quotes fuel (place + 1 + skipped.length) (rest.drop skipped.length) done
      else do
        let (e, behind) ← readEscape w (place + 1) rest
        let size := byteSize rest - byteSize behind
        readText w quotes fuel (place + 1 + size) behind (e :: done)
    else if multiline && c = '\r' && rest.head? ≠ some '\n' then w.fail .loneReturn place place
    else if isGood c then readText w quotes fuel (place + c.utf8Size) rest (c :: done)
    else if escapes then
      let bad := (c :: rest).takeWhile fun d => !isGood d
      w.fail (.badText quotes) place (place + byteSize bad)
    else w.fail (.badText quotes) place place

/-- Reads a text with its quotes. A line break right behind the opening quotes of a text over
several lines does not count. -/
def readQuoted (w : Word) (quotes : Quotes) : Except Fault String := do
  let mark := quotes.mark.toList
  let inner := w.text.drop mark.length
  if inner.length < mark.length || inner.drop (inner.length - mark.length) ≠ mark then
    w.fail (.openText quotes) w.size w.size
  else
    let body := inner.take (inner.length - mark.length)
    let skipped := if mark.length = 1 then 0 else match body with
      | '\n' :: _ => 1
      | '\r' :: '\n' :: _ => 2
      | _ => 0
    let body := body.drop skipped
    let cs ← readText w quotes body.length (mark.length + skipped) body []
    pure (String.ofList cs)

def isKeyChar (c : Char) : Bool := c.isAlphanum || c = '_' || c = '-'

def readKey (w : Word) : Except Fault String :=
  match w.quotes with
  | some quotes =>
    if quotes = .literal || quotes = .basic then readQuoted w quotes
    else w.failAll (.multilineKey quotes)
  | none =>
    if w.text.isEmpty then w.failAll .emptyKey
    else
      let good := w.text.takeWhile isKeyChar
      if good.length < w.text.length then w.fail .badKey (byteSize good) (byteSize good)
      else .ok (String.ofList w.text)

/-- A scalar that looks like nothing else is a text without quotes. -/
def notQuoted (w : Word) : Except Fault Scalar := w.failAll .notQuoted

/-- A scalar that has to be a name, and its value. -/
def readName (w : Word) (name : String) (kind : ValueKind) (value : Scalar) : Except Fault Scalar :=
  if w.text = name.toList then .ok value
  else if w.text.contains ' ' then notQuoted w
  else w.failAll (.noWord kind name)

/-- Underscores stand between digits only. The part of a word starts at a place. -/
def checkUnderscores (w : Word) (isDigit : Char → Bool) (place : Nat) :
    Option Char → List Char → Except Fault Unit
  | _, [] => .ok ()
  | before, c :: rest =>
    if c = '_' && !(before.any isDigit && rest.head?.any isDigit) then
      w.fail .underscore place (place + 1)
    else checkUnderscores w isDigit (place + c.utf8Size) (some c) rest

def withoutUnderscores (cs : List Char) : List Char := cs.filter (· ≠ '_')

/-- Digits and underscores at a place in a word, with a name for them. -/
def checkDigits (w : Word) (part : String) (zeroAllowed : Bool) (place : Nat) (cs : List Char) :
    Except Fault (Nat × List Char) :=
  let run := cs.takeWhile fun c => c.isDigit || c = '_'
  let count := (run.filter Char.isDigit).length
  if count = 0 then w.fail (.noDigits part) place place
  else if 1 < count && cs.head? = some '0' && !zeroAllowed then
    w.fail .leadingZero place (place + 1)
  else .ok (place + run.length, cs.drop run.length)

/-- The shape of a number with a fraction or an exponent. -/
def checkFloat (w : Word) (place : Nat) (cs : List Char) : Except Fault Unit := do
  let (place, cs) ← checkDigits w "mantissa" false place cs
  let (place, cs) ← match cs with
    | '.' :: rest => checkDigits w "fraction" true (place + 1) rest
    | _ => pure (place, cs)
  let (place, cs) ← match cs with
    | c :: rest =>
      if c = 'e' || c = 'E' then
        match rest with
        | '+' :: rest => checkDigits w "exponent" true (place + 2) rest
        | '-' :: rest => checkDigits w "exponent" true (place + 2) rest
        | rest => checkDigits w "exponent" true (place + 1) rest
      else pure (place, cs)
    | [] => pure (place, cs)
  if cs.isEmpty then pure () else w.fail .badFloat place w.size

/-- The double of a numeral of the right shape; none if it is too large. -/
def floatOf (negative : Bool) (cs : List Char) : Option Float :=
  let cs := withoutUnderscores cs
  let whole := cs.takeWhile Char.isDigit
  let (fraction, rest) := match cs.drop whole.length with
    | '.' :: rest => (rest.takeWhile Char.isDigit, rest.dropWhile Char.isDigit)
    | rest => ([], rest)
  let (minus, digits) := match rest.drop 1 with
    | '+' :: ds => (false, ds)
    | '-' :: ds => (true, ds)
    | ds => (false, ds)
  let e := (Number.natOfDigits? 10 digits).getD 0
  let x := Number.Numeral.toFloat ⟨negative, whole, fraction, if minus then -(e : Int) else e⟩
  if x.isFinite then some x else none

/-- The unsigned part of a word, its place, and its sign if it has one. -/
structure Unsigned where
  sign : Option Char
  place : Nat
  text : List Char

def readFloat (w : Word) (u : Unsigned) : Except Fault Scalar := do
  checkFloat w u.place u.text
  checkUnderscores w Char.isDigit 0 none w.text
  pure (.float (floatOf (u.sign = some '-') u.text))

def readInteger (w : Word) (u : Unsigned) : Except Fault Scalar := do
  if 1 < u.text.length && u.text.head? = some '0' then
    w.fail .leadingZero u.place (u.place + 1)
  checkUnderscores w Char.isDigit 0 none w.text
  let n := (Number.natOfDigits? 10 (withoutUnderscores u.text)).map fun n => (n : Int)
  pure (.integer (n.map fun n => if u.sign = some '-' then -n else n))

def readRadix (w : Word) (u : Unsigned) (radix : Radix) : Except Fault Scalar := do
  if u.sign.isSome then w.fail .signedRadix 0 1
  if (u.text.drop 1).head? ≠ some radix.letter then
    w.fail (.capitalRadix radix) u.place (u.place + 2)
  let digits := u.text.drop 2
  let place := u.place + 2
  if digits.head? = some '+' || digits.head? = some '-' then
    w.fail .signInside place (place + 1)
  let isDigit (c : Char) : Bool := (Number.digitValue? c).any (· < radix.base)
  let good := digits.takeWhile fun c => isDigit c || c = '_'
  if good.length < digits.length then
    w.fail (.badDigit (some radix)) (place + byteSize good) (place + byteSize good)
  checkUnderscores w isDigit place none digits
  let n := Number.natOfDigits? radix.base (withoutUnderscores digits)
  pure (.integer (n.map fun n => (n : Int)))

/-- Reads a number, a date or a time, from a digit or an underscore on. -/
def readDigits (w : Word) (u : Unsigned) : Except Fault Scalar :=
  let rest := u.text.dropWhile Char.isDigit
  match rest.head? with
  | none => readInteger w u
  | some c =>
    if c = '-' || c = ':' then do
      match checkMoment w.text with
      | .ok () => pure .moment
      | .error cause => w.failAll cause
    else if rest.contains ' ' then notQuoted w
    else if rest.any fun d => d = '.' || d = 'e' || d = 'E' then readFloat w u
    else if c = '_' then readInteger w u
    else notQuoted w

def readZero (w : Word) (u : Unsigned) : Except Fault Scalar :=
  match (u.text.drop 1).head? with
  | none => readInteger w u
  | some c =>
    if c = 'x' || c = 'X' then readRadix w u .hexadecimal
    else if c = 'o' || c = 'O' then readRadix w u .octal
    else if c = 'b' || c = 'B' then readRadix w u .binary
    else if c = 'd' || c = 'D' then
      if u.sign.isSome then w.fail .signedRadix 0 1
      else w.fail .decimalRadix u.place (u.place + 2)
    else readDigits w u

def readSigned (w : Word) (u : Unsigned) : Except Fault Scalar :=
  let negative := u.sign = some '-'
  match u.text.head? with
  | none => notQuoted w
  | some c =>
    if c = '+' || c = '-' then w.fail .twoSigns u.place (u.place + 1)
    else if c = '0' then readZero w u
    else if c.isDigit || c = '_' then readDigits w u
    else if c = '.' then readFloat w u
    else if c = 'i' || c = 'I' then
      if u.text = "inf".toList then .ok (.float (some (if negative then -1.0 / 0.0 else 1.0 / 0.0)))
      else w.fail (.noWord .float "inf") u.place w.size
    else if c = 'n' || c = 'N' then
      if u.text = "nan".toList then .ok (.float (some (0.0 / 0.0)))
      else w.fail (.noWord .float "nan") u.place w.size
    else notQuoted w

def readBare (w : Word) : Except Fault Scalar :=
  let unsigned : Unsigned := ⟨none, 0, w.text⟩
  match w.text.head? with
  | none => notQuoted w
  | some c =>
    if c = '+' || c = '-' then readSigned w ⟨some c, 1, w.text.drop 1⟩
    else if c = '0' then readZero w unsigned
    else if c.isDigit || c = '_' then readDigits w unsigned
    else if c = '.' then readFloat w unsigned
    else if c = 't' || c = 'T' then readName w "true" .bool (.bool true)
    else if c = 'f' || c = 'F' then readName w "false" .bool (.bool false)
    else if c = 'i' || c = 'I' then readName w "inf" .float (.float (some (1.0 / 0.0)))
    else if c = 'n' || c = 'N' then readName w "nan" .float (.float (some (0.0 / 0.0)))
    else notQuoted w

def readScalar (w : Word) : Except Fault Scalar :=
  match w.quotes with
  | some quotes => (readQuoted w quotes).map .text
  | none => readBare w

end CleanSql.Toml
