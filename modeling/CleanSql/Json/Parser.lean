import CleanSql.Json.Node
import CleanSql.Number.Numeral

/-!
# Reading JSON text

The text is read into a tree once, from left to right. A cursor is the rest of the text with the
number of bytes before it.
-/
namespace CleanSql.Json

/-- The rest of a text and its place. -/
structure Cursor where
  rest : List Char
  place : Nat

namespace Cursor

def dropWhile (p : Char → Bool) : List Char → Nat → Cursor
  | [], place => ⟨[], place⟩
  | c :: rest, place => if p c then dropWhile p rest (place + c.utf8Size) else ⟨c :: rest, place⟩

/-- The blanks that may stand between the parts of a document. -/
def isBlank (c : Char) : Bool := c = ' ' || c = '\n' || c = '\t' || c = '\r'

def skipBlanks (c : Cursor) : Cursor := dropWhile isBlank c.rest c.place

end Cursor

def byteSize (cs : List Char) : Nat := cs.foldl (fun n c => n + c.utf8Size) 0

/-- Four hexadecimal digits; four bytes are taken up even where they are none. -/
def readHex (cs : List Char) (place : Nat) : Except Fault (Nat × List Char) :=
  let near := byteSize (cs.take 4)
  if near < 4 then throw ⟨.endInString, place + near⟩
  else
    match cs with
    | a :: b :: c :: d :: rest =>
      match Number.natOfDigits? 16 [a, b, c, d] with
      | some n => pure (n, rest)
      | none => throw ⟨.badEscape, place + 4⟩
    | _ => throw ⟨.badEscape, place + 4⟩

def simpleEscape? (c : Char) : Option Char :=
  match c with
  | '"' => some '"'
  | '\\' => some '\\'
  | '/' => some '/'
  | 'b' => some '\x08'
  | 'f' => some '\x0c'
  | 'n' => some '\n'
  | 'r' => some '\r'
  | 't' => some '\t'
  | _ => none

def isHighSurrogate (n : Nat) : Bool := 0xD800 ≤ n && n ≤ 0xDBFF

def isLowSurrogate (n : Nat) : Bool := 0xDC00 ≤ n && n ≤ 0xDFFF

/-- Reads the low half of a pair after its high half. -/
def readLowHalf (high : Nat) (cs : List Char) (place : Nat) :
    Except Fault (Char × List Char × Nat) :=
  match cs with
  | [] => .error ⟨.endInString, place⟩
  | '\\' :: 'u' :: rest => do
    let (low, rest) ← readHex rest (place + 2)
    if isLowSurrogate low then
      pure (Char.ofNat (0x10000 + (high - 0xD800) * 0x400 + (low - 0xDC00)), rest, place + 6)
    else throw ⟨.loneSurrogate, place + 6⟩
  | ['\\'] => .error ⟨.endInString, place + 1⟩
  | '\\' :: _ => .error ⟨.unpairedSurrogate, place + 2⟩
  | _ => .error ⟨.unpairedSurrogate, place + 1⟩

def readUnicode (cs : List Char) (place : Nat) : Except Fault (Char × List Char × Nat) := do
  let (n, rest) ← readHex cs place
  if isLowSurrogate n then throw ⟨.loneSurrogate, place + 4⟩
  else if isHighSurrogate n then readLowHalf n rest (place + 4)
  else pure (Char.ofNat n, rest, place + 4)

/-- Reads the characters of a text up to its closing quote. -/
def readQuoted : Nat → List Char → Nat → List Char → Except Fault String
  | 0, _, place, _ => .error ⟨.endInString, place⟩
  | fuel + 1, cs, place, done =>
    match cs with
    | [] => .error ⟨.endInString, place⟩
    | '"' :: _ => .ok (String.ofList done.reverse)
    | ['\\'] => .error ⟨.endInString, place + 1⟩
    | '\\' :: 'u' :: rest => do
      let (c, rest, place) ← readUnicode rest (place + 2)
      readQuoted fuel rest place (c :: done)
    | '\\' :: c :: rest =>
      match simpleEscape? c with
      | some e => readQuoted fuel rest (place + 2) (e :: done)
      | none => .error ⟨.badEscape, place + 2⟩
    | c :: rest =>
      if c.toNat < 0x20 then .error ⟨.controlCharacter, place + 1⟩
      else readQuoted fuel rest (place + c.utf8Size) (c :: done)

/-- Passes over the characters of a text up to its closing quote. -/
def skipQuoted : Nat → List Char → Nat → Except Fault Cursor
  | 0, _, place => .error ⟨.endInString, place⟩
  | fuel + 1, cs, place =>
    match cs with
    | [] => .error ⟨.endInString, place⟩
    | '"' :: rest => .ok ⟨rest, place + 1⟩
    | ['\\'] => .error ⟨.endInString, place + 1⟩
    | '\\' :: 'u' :: rest => do
      let (_, rest) ← readHex rest (place + 2)
      skipQuoted fuel rest (place + 6)
    | '\\' :: c :: rest =>
      if (simpleEscape? c).isSome then skipQuoted fuel rest (place + 2)
      else .error ⟨.badEscape, place + 2⟩
    | c :: rest =>
      if c.toNat < 0x20 then .error ⟨.controlCharacter, place⟩
      else skipQuoted fuel rest (place + c.utf8Size)

/-- A text after its opening quote, and the cursor behind it if it can be passed over. -/
def parseQuoted (cs : List Char) (start : Nat) : Quoted × Option Cursor :=
  let read := readQuoted (cs.length + 1) cs (start + 1) []
  match skipQuoted (cs.length + 1) cs (start + 1) with
  | .ok c => (⟨start, c.place, read, none⟩, some c)
  | .error f => (⟨start, f.place, read, some f⟩, none)

/-- The parts of a number behind its sign. -/
structure NumberParts where
  whole : List Char
  /-- The digits after a point, if there is a point. -/
  fraction : Option (List Char)
  /-- What follows the mark of an exponent, if there is one: its sign and its digits. -/
  exponent : Option (Option Char × List Char)
  rest : List Char

def NumberParts.of (cs : List Char) : NumberParts :=
  let whole := cs.takeWhile Char.isDigit
  let rest := cs.dropWhile Char.isDigit
  let (fraction, rest) := match rest with
    | '.' :: r => (some (r.takeWhile Char.isDigit), r.dropWhile Char.isDigit)
    | r => (none, r)
  if fraction = some [] then ⟨whole, fraction, none, rest⟩
  else
    match rest with
    | mark :: r =>
      if mark = 'e' ∨ mark = 'E' then
        let (sign, r) := match r with
          | '+' :: r => (some '+', r)
          | '-' :: r => (some '-', r)
          | r => (none, r)
        ⟨whole, fraction, some (sign, r.takeWhile Char.isDigit), r.dropWhile Char.isDigit⟩
      else ⟨whole, fraction, none, rest⟩
    | [] => ⟨whole, fraction, none, []⟩

namespace NumberParts

/-- A zero may not come before other digits, and a number has at least one. -/
def wholeFault? (n : NumberParts) (place : Nat) (atEnd : Cause) : Option Fault :=
  match n.whole with
  | [] => match n.rest, n.fraction, n.exponent with
    | [], none, none => some ⟨atEnd, place⟩
    | _, _, _ => some ⟨.badNumber, place + 1⟩
  | '0' :: _ :: _ => some ⟨.badNumber, place + 2⟩
  | _ => none

def wholeStop (n : NumberParts) (place : Nat) : Nat := place + n.whole.length

def fractionStop (n : NumberParts) (place : Nat) : Nat :=
  n.wholeStop place + n.fraction.elim 0 (·.length + 1)

def signStop (n : NumberParts) (place : Nat) : Nat :=
  n.fractionStop place + n.exponent.elim 0 fun (sign, _) => 1 + sign.toList.length

def stop (n : NumberParts) (place : Nat) : Nat :=
  n.signStop place + n.exponent.elim 0 fun (_, digits) => digits.length

/-- A point and the mark of an exponent have digits after them. -/
def tailFault? (n : NumberParts) (place : Nat) (atEnd : Cause) : Option Fault :=
  let stop := n.stop place
  if n.fraction = some [] then
    match n.rest with
    | [] => some ⟨atEnd, stop⟩
    | _ => some ⟨.badNumber, stop + 1⟩
  else if n.exponent.any fun (_, digits) => digits.isEmpty then
    match n.rest with
    | [] => some ⟨atEnd, stop⟩
    | _ => some ⟨.badNumber, stop + 1⟩
  else none

/-- What is wrong with the spelling of a number; the causes differ at the end of the text. -/
def fault? (n : NumberParts) (place : Nat) (atEnd : Cause) : Option Fault :=
  (n.wholeFault? place atEnd).or (n.tailFault? place atEnd)

/-- How many digits of an exponent are read before it is known to be too large. -/
def exponentDigits : Nat → List Char → Nat
  | _, [] => 0
  | e, d :: rest =>
    let e := e * 10 + (d.toNat - '0'.toNat)
    if e < Nat.pow 2 31 then 1 + exponentDigits e rest else 1

def isHugeExponent (n : NumberParts) : Bool :=
  n.exponent.any fun (_, digits) => ((Number.natOfDigits? 10 digits).any fun e => Nat.pow 2 31 ≤ e)

def isZero (n : NumberParts) : Bool :=
  n.whole.all (· = '0') && n.fraction.all fun ds => ds.all (· = '0')

def value (n : NumberParts) (negative : Bool) (place : Nat) : Except Fault Number :=
  match n.fraction, n.exponent with
  | none, none =>
    let m := (Number.natOfDigits? 10 n.whole).getD 0
    if !negative && m < UInt64.size then .ok (.natural (UInt64.ofNat m))
    else if negative && 0 < m && m ≤ Nat.pow 2 63 then .ok (.negative (-m))
    else .ok (.float (Number.Numeral.toFloat ⟨negative, n.whole, [], 0⟩))
  | _, _ =>
    let minus := n.exponent.any fun (sign, _) => sign = some '-'
    if n.isHugeExponent && !minus && !n.isZero then
      .error ⟨.numberOutOfRange,
        n.signStop place + n.exponent.elim 0 fun (_, digits) => exponentDigits 0 digits⟩
    else
      let e := (n.exponent.bind fun (_, digits) => Number.natOfDigits? 10 digits).getD 0
      let x := Number.Numeral.toFloat
        ⟨negative, n.whole, n.fraction.getD [], if minus then -e else e⟩
      if x.isFinite then .ok (.float x) else .error ⟨.numberOutOfRange, n.stop place⟩

end NumberParts

def parseNumber (negative : Bool) (cs : List Char) (start : Nat) : Node × Option Cursor :=
  let place := if negative then start + 1 else start
  let n := NumberParts.of cs
  let stop := n.stop place
  let read := match n.fault? place .endInValue with
    | some f => .error f
    | none =>
      match n.value negative place with
      | .ok (.float x) =>
        if x.isFinite then .ok (.float x) else .error ⟨.numberOutOfRange, stop⟩
      | r => r
  match n.fault? place .badNumber with
  | some f => (.number start stop read (some f), none)
  | none => (.number start stop read none, some ⟨n.rest, stop⟩)

/-- The rest of a name after its first letter, or how far it goes. -/
def parseName (name : List Char) (cs : List Char) (place : Nat) : Except Fault Cursor :=
  match name, cs with
  | [], cs => .ok ⟨cs, place⟩
  | _ :: _, [] => .error ⟨.endInValue, place⟩
  | n :: name, c :: cs =>
    if n = c then parseName name cs (place + 1) else .error ⟨.noIdent, place + 1⟩

def parseWord (name : String) (node : Nat → Node) (cs : List Char) (start : Nat) :
    Node × Option Cursor :=
  match parseName name.toList cs (start + 1) with
  | .ok c => (node c.place, some c)
  | .error f => (.misspelled start f, none)

mutual

/-- A value and the cursor behind it; without a cursor the text cannot be read any further. -/
def parseValue : Nat → Cursor → Node × Option Cursor
  | 0, c => (.missing ⟨.endInValue, c.place⟩, none)
  | fuel + 1, c =>
    let c := c.skipBlanks
    match c.rest with
    | [] => (.missing ⟨.endInValue, c.place⟩, none)
    | 'n' :: rest => parseWord "ull" (fun stop => .null c.place stop) rest c.place
    | 't' :: rest => parseWord "rue" (fun stop => .bool c.place stop true) rest c.place
    | 'f' :: rest => parseWord "alse" (fun stop => .bool c.place stop false) rest c.place
    | '"' :: rest =>
      let (q, next) := parseQuoted rest c.place
      (.text q, next)
    | '-' :: rest => parseNumber true rest c.place
    | '[' :: rest =>
      let (items, ending, next) := parseItems fuel true ⟨rest, c.place + 1⟩
      (.list c.place items ending, next)
    | '\x7b' :: rest =>
      let (members, ending, next) := parseMembers fuel true ⟨rest, c.place + 1⟩
      (.record c.place members ending, next)
    | d :: _ =>
      if d.isDigit then parseNumber false c.rest c.place
      else (.missing ⟨.noValue, c.place + 1⟩, none)

/-- The items of a list, from where a bracket or, after the first, a comma may stand. -/
def parseItems : Nat → Bool → Cursor → List Node × Ending × Option Cursor
  | 0, _, c => ([], .ended c.place, none)
  | fuel + 1, first, c =>
    let c := c.skipBlanks
    match c.rest, first with
    | [], _ => ([], .ended c.place, none)
    | ']' :: rest, _ => ([], .closed (c.place + 1), some ⟨rest, c.place + 1⟩)
    | ',' :: rest, false =>
      let next := Cursor.skipBlanks ⟨rest, c.place + 1⟩
      match next.rest with
      | [] => ([], .commaEnded next.place, none)
      | ']' :: _ => ([], .commaClosed next.place, none)
      | _ => parseItem fuel next
    | _, true => parseItem fuel c
    | _, false => ([], .noComma c.place, none)

def parseItem : Nat → Cursor → List Node × Ending × Option Cursor
  | 0, c => ([], .ended c.place, none)
  | fuel + 1, c =>
    match parseValue fuel c with
    | (item, none) => ([item], .broken (item.skip?.getD ⟨.endInList, c.place⟩), none)
    | (item, some next) =>
      let (items, ending, next) := parseItems fuel false next
      (item :: items, ending, next)

/-- The members of a record, from where a bracket or, after the first, a comma may stand. -/
def parseMembers :
    Nat → Bool → Cursor → List (Quoted × Nat × Node × Nat) × Ending × Option Cursor
  | 0, _, c => ([], .ended c.place, none)
  | fuel + 1, first, c =>
    let c := c.skipBlanks
    match c.rest, first with
    | [], _ => ([], .ended c.place, none)
    | '\x7d' :: rest, _ => ([], .closed (c.place + 1), some ⟨rest, c.place + 1⟩)
    | ',' :: rest, false =>
      let next := Cursor.skipBlanks ⟨rest, c.place + 1⟩
      match next.rest with
      | [] => ([], .commaEnded next.place, none)
      | '\x7d' :: _ => ([], .commaClosed next.place, none)
      | '"' :: rest => parseMember fuel ⟨rest, next.place⟩
      | _ => ([], .noKey next.place, none)
    | '"' :: rest, true => parseMember fuel ⟨rest, c.place⟩
    | _, true => ([], .noKey c.place, none)
    | _, false => ([], .noComma c.place, none)

/-- A member behind the opening quote of its key, and those after it. -/
def parseMember : Nat → Cursor → List (Quoted × Nat × Node × Nat) × Ending × Option Cursor
  | 0, c => ([], .ended c.place, none)
  | fuel + 1, c =>
    match parseQuoted c.rest c.place with
    | (key, none) =>
      let f := key.skip.getD ⟨.endInString, c.place⟩
      ([(key, key.stop, .missing f, key.stop)], .broken f, none)
    | (key, some behind) =>
      let behind := behind.skipBlanks
      match behind.rest with
      | ':' :: rest =>
        match parseValue fuel ⟨rest, behind.place + 1⟩ with
        | (value, none) =>
          let f := value.skip?.getD ⟨.endInRecord, behind.place⟩
          ([(key, behind.place, value, f.place)], .broken f, none)
        | (value, some next) =>
          let next := next.skipBlanks
          let (members, ending, last) := parseMembers fuel false next
          ((key, behind.place, value, next.place) :: members, ending, last)
      | [] =>
        let f : Fault := ⟨.endInRecord, behind.place⟩
        ([(key, behind.place, .missing f, behind.place)], .broken f, none)
      | c :: _ =>
        let f : Fault := ⟨.noColon, behind.place + 1⟩
        ([(key, if c = '\x7d' then behind.place + 1 else behind.place, .missing f, behind.place)],
          .broken f, none)

end

/-- A whole document, with what is wrong behind its value. -/
structure Document where
  root : Node
  trailing : Option Fault

def Document.parse (text : String) : Document :=
  let cs := text.toList
  match parseValue (3 * cs.length + 3) ⟨cs, 0⟩ with
  | (root, none) => ⟨root, none⟩
  | (root, some c) =>
    let c := c.skipBlanks
    ⟨root, if c.rest.isEmpty then none else some ⟨.trailingCharacters, c.place + 1⟩⟩

end CleanSql.Json
