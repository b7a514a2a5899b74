import CleanSql.Yaml.Lexeme.Scalar

/-!
# Names, tags and directives

What may stand before a node: an anchor and a tag. What may stand before a document: its version
and short handles for its tags.
-/
namespace CleanSql.Yaml

/-- Reads the name of an anchor or an alias from its mark on. -/
def readAnchorName (during : Activity) (c : Cursor) : Except Fault (String × Cursor) :=
  let name := c.next.rest.takeWhile isNameChar
  let behind := c.next.dropWhile isNameChar
  let ends := isWordEnd behind.rest || behind.startsWith fun d =>
    ['?', ':', ',', ']', '\x7d', '%', '@', '\x60'].contains d
  if name.isEmpty || !ends then
    .error (.spelling .noName behind.mark (some (during, c.mark)))
  else .ok (String.ofList name, behind)

def octetOf? : List Char → Option Nat
  | '%' :: a :: b :: _ => Number.natOfDigits? 16 [a, b]
  | _ => none

/-- How many octets a character takes up, and what its first octet adds to its code point. -/
def leadingOctet? (n : Nat) : Option (Nat × Nat) :=
  if n < 0x80 then some (1, n)
  else if 0xC0 ≤ n ∧ n < 0xE0 then some (2, n - 0xC0)
  else if 0xE0 ≤ n ∧ n < 0xF0 then some (3, n - 0xE0)
  else if 0xF0 ≤ n ∧ n < 0xF8 then some (4, n - 0xF0)
  else none

def readOctets : Nat → Nat → Cursor → Except (Cause × Mark) (Nat × Cursor)
  | 0, code, c => .ok (code, c)
  | more + 1, code, c =>
    match octetOf? c.rest with
    | none => .error (.noOctet, c.mark)
    | some n =>
      if 0x80 ≤ n ∧ n < 0xC0 then readOctets more (code * 0x40 + (n - 0x80)) (c.skip 3)
      else .error (.badTrailingOctet, c.mark)

def readEncoded (c : Cursor) : Except (Cause × Mark) (Char × Cursor) :=
  match octetOf? c.rest with
  | none => .error (.noOctet, c.mark)
  | some n =>
    match leadingOctet? n with
    | none => .error (.badLeadingOctet, c.mark)
    | some (size, code) => do
      let (code, c) ← readOctets (size - 1) code (c.skip 3)
      pure ((charOf? code).getD '\uFFFD', c)

/-- The characters of a tag. Between angle brackets and in directives it may hold a few more. -/
def isUriChar (wide : Bool) (c : Char) : Bool :=
  isNameChar c || ";/?:@&=+$.%!~*'()".contains c || wide && ",[]".contains c

/-- Reads the characters of a tag behind some of them, the last of them first. -/
def readUriChars (wide : Bool) :
    Nat → Cursor → List Char → Except (Cause × Mark) (List Char × Cursor)
  | 0, c, done => .ok (done.reverse, c)
  | fuel + 1, c, done =>
    match c.rest with
    | [] => .ok (done.reverse, c)
    | d :: _ =>
      if !isUriChar wide d then .ok (done.reverse, c)
      else if d = '%' then do
        let (e, c) ← readEncoded c
        readUriChars wide fuel c (e :: done)
      else readUriChars wide fuel c.next (d :: done)

/-- Reads a tag behind a part of it, which does not count when it is a single character. -/
def readUri (wide : Bool) (during : Activity) (start : Mark) (before : List Char) (c : Cursor) :
    Except Fault (String × Cursor) :=
  match readUriChars wide (c.rest.length + 1) c [] with
  | .error (cause, place) => .error (.spelling cause place (some (during, start)))
  | .ok (uri, next) =>
    if before.isEmpty && uri.isEmpty then
      .error (.spelling .noUri next.mark (some (during, start)))
    else .ok (String.ofList (before.drop 1 ++ uri), next)

/-- Reads the handle of a tag: a name between exclamation marks, of which the second may be
missing. -/
def readHandle (c : Cursor) : List Char × Cursor :=
  let name := c.next.rest.takeWhile isNameChar
  let behind := c.next.dropWhile isNameChar
  if behind.head? = some '!' then ('!' :: name ++ ['!'], behind.next) else ('!' :: name, behind)

def isFullHandle (handle : List Char) : Bool := 1 < handle.length && handle.getLast? = some '!'

/-- Reads a tag from its mark on: a handle and what follows it. -/
def readTag (inFlow : Bool) (c : Cursor) : Except Fault (String × String × Cursor) := do
  let (handle, suffix, next) ← match c.next.head? with
    | some '<' => do
      let (uri, next) ← readUri true .tagUri c.mark [] (c.skip 2)
      if next.head? = some '>' then pure ("", uri, next.next)
      else throw (.spelling .noAngle next.mark (some (.tag, c.mark)))
    | _ => do
      let (handle, behind) := readHandle c
      if isFullHandle handle then do
        let (uri, next) ← readUri false .tagUri c.mark [] behind
        pure (String.ofList handle, uri, next)
      else do
        let (uri, next) ← readUri false .tagUri c.mark handle behind
        if uri.isEmpty then pure ("", "!", next) else pure ("!", uri, next)
  if isWordEnd next.rest || inFlow && next.head? = some ',' then pure (handle, suffix, next)
  else throw (.spelling .noBlankOrBreak next.mark (some (.tag, c.mark)))

inductive Directive where
  | version (major minor : Nat)
  | handle (handle uri : String)
  deriving DecidableEq, Repr

/-- Reads a number of a version, which has at most nine digits. -/
def readVersionNumber (start : Mark) (c : Cursor) : Except Fault (Nat × Cursor) :=
  let digits := c.rest.takeWhile Char.isDigit
  let fail (cause : Cause) (c : Cursor) : Except Fault (Nat × Cursor) :=
    .error (.spelling cause c.mark (some (.versionDirective, start)))
  if 9 < digits.length then fail .longVersion (c.skip 9)
  else
    match Number.natOfDigits? 10 digits with
    | none => fail .noVersion c
    | some n => .ok (n, c.skip digits.length)

def readVersion (start : Mark) (c : Cursor) : Except Fault (Directive × Cursor) := do
  let (major, c) ← readVersionNumber start (c.dropWhile isBlank)
  if c.head? ≠ some '.' then
    throw (.spelling .noVersionPoint c.mark (some (.versionDirective, start)))
  let (minor, c) ← readVersionNumber start c.next
  pure (.version major minor, c)

/-- Reads the handle of a directive and its meaning behind the name of the directive. -/
def readHandleDirective (start : Mark) (c : Cursor) : Except Fault (Directive × Cursor) := do
  let c := c.dropWhile isBlank
  if c.head? ≠ some '!' then
    throw (.spelling .noBang c.mark (some (.directive, start)))
  let (handle, c) := readHandle c
  if handle ≠ ['!'] && !isFullHandle handle then
    throw (.spelling .noBang c.mark (some (.directiveHandle, start)))
  if !c.startsWith isBlank then
    throw (.spelling .noBlank c.mark (some (.tagDirective, start)))
  let (uri, c) ← readUri true .tagDirectiveUri start [] (c.dropWhile isBlank)
  if isWordEnd c.rest then pure (.handle (String.ofList handle) uri, c)
  else throw (.spelling .noBlankOrBreak c.mark (some (.tagDirective, start)))

def readDirective (c : Cursor) : Except Fault (Directive × Cursor) := do
  let start := c.mark
  let name := c.next.rest.takeWhile isNameChar
  let behind := c.next.dropWhile isNameChar
  if name.isEmpty then
    throw (.spelling .noDirectiveName behind.mark (some (.directive, start)))
  if !isWordEnd behind.rest then
    throw (.spelling .badDirectiveName behind.mark (some (.directive, start)))
  let (directive, next) ←
    if name = "YAML".toList then readVersion start behind
    else if name = "TAG".toList then readHandleDirective start behind
    else throw (.spelling .unknownDirective behind.mark (some (.directive, start)))
  match next.endLine? with
  | some next => pure (directive, next)
  | none =>
    throw (.spelling .noLineEnd (next.dropWhile isBlank).mark (some (.directive, start)))

end CleanSql.Yaml
