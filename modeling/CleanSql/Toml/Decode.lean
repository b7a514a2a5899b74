import CleanSql.Decode.Table
import CleanSql.Number.Shortest
import CleanSql.Toml.Value

/-!
# What is read from TOML documents

A record is a table, or a list of its fields in their order. A name among several is a text, or
the only key of a table with nothing in it.
-/
namespace CleanSql.Toml

/-- The whole numbers that fit into some bits, with and without a sign. -/
def fitsSigned (bits : Nat) (n : Int) : Bool :=
  -(Int.pow 2 (bits - 1)) ≤ n && n < Int.pow 2 (bits - 1)

def fitsUnsigned (bits : Nat) (n : Int) : Bool := 0 ≤ n && n < Int.pow 2 bits

/-- What a scalar is where something else is expected, unless it is too large for anything. -/
def Scalar.found : Scalar → Except Cause Found
  | text s => .ok (.text s)
  | integer none => .error .largeInteger
  | integer (some n) =>
    if fitsSigned 64 n || fitsUnsigned 64 n then .ok (.integer n)
    else if fitsSigned 128 n then .ok (.wide n true)
    else if fitsUnsigned 128 n then .ok (.wide n false)
    else .error .largeInteger
  | float none => .error .largeFloat
  | float (some x) => .ok (.float (Number.Layout.plain.writeFloat x))
  | bool b => .ok (.bool b)
  | moment => .ok .map

namespace Value

/-- The fault of a value that is not what was expected. -/
def unexpected (expected : String) : Value → Fault
  | scalar span v =>
    match v.found with
    | .ok found => ⟨.mismatch (.type found expected), span⟩
    | .error cause => ⟨cause, span⟩
  | list span _ _ => ⟨.mismatch (.type .list expected), span⟩
  | table span _ _ => ⟨.mismatch (.type .map expected), span⟩

mutual

/-- The first fault of a value that is passed over: a number that is too large. -/
def skip? : Value → Option Fault
  | scalar span v =>
    match v.found with
    | .ok _ => none
    | .error cause => some ⟨cause, span⟩
  | list _ _ items => skipItems? items
  | table _ _ entries => skipEntries? entries

def skipItems? : List Value → Option Fault
  | [] => none
  | v :: rest => v.skip?.or (skipItems? rest)

def skipEntries? : List (Key × Value) → Option Fault
  | [] => none
  | (_, v) :: rest => v.skip?.or (skipEntries? rest)

end

def readText : Value → Except Fault String
  | scalar _ (.text s) => .ok s
  | v => .error (v.unexpected "a string")

def readFlag : Value → Except Fault Bool
  | scalar _ (.bool b) => .ok b
  | v => .error (v.unexpected "a boolean")

def readIndex : Value → Except Fault UInt64
  | scalar span (.integer (some n)) =>
    if fitsUnsigned 64 n then .ok (UInt64.ofNat n.toNat)
    else if fitsSigned 64 n then .error ⟨.mismatch (.value (.integer n) "usize"), span⟩
    else .error ((scalar span (.integer (some n))).unexpected "usize")
  | v => .error (v.unexpected "usize")

def choose {α : Type} (choices : List (String × α)) (name : String) (span : Span) :
    Except Fault α :=
  match choices.lookup name with
  | some a => .ok a
  | none => .error ⟨.mismatch (.variant name (choices.map (·.1))), span⟩

/-- What stands behind a name that is a key holds nothing. -/
def readNothing : Value → Except Fault Unit
  | list span _ items => if items.isEmpty then .ok () else fail (.notEmpty .list) span
  | table span _ entries => if entries.isEmpty then .ok () else fail (.notEmpty .table) span
  | scalar span v => fail (.noTable v.kind) span

def readChoice {α : Type} (choices : List (String × α)) : Value → Except Fault α
  | scalar span (.text s) => choose choices s span
  | table span _ [] => fail .noName span
  | table _ _ [(key, value)] => do
    let a ← choose choices key.name key.span
    value.readNothing
    pure a
  | table span _ _ => fail .manyNames span
  | v => fail .notAName v.span

def readList {α : Type} (read : Value → Except Fault α) : Value → Except Fault (List α)
  | list _ _ items => items.mapM read
  | v => .error (v.unexpected "a sequence")

def readEntries {α : Type} (read : Value → Except Fault α) :
    Value → Except Fault (List (String × α))
  | table _ _ entries => entries.mapM fun (key, v) => do pure (key.name, ← read v)
  | v => .error (v.unexpected "a map")

/-- Reads the entries of a record in the order of their names. Unknown ones are passed over. -/
def readFields {α : Type} (shape : RecordShape Value Fault α) :
    List String → α → List (Key × Value) → Except Fault (List String × α)
  | seen, a, [] => .ok (seen, a)
  | seen, a, (key, v) :: rest => do
    match shape.field? key.name with
    | none =>
      match v.skip? with
      | none => readFields shape seen a rest
      | some f => throw f
    | some field => readFields shape (key.name :: seen) (← field.put v a) rest

/-- Reads the fields of a record that stand in a row; those at the end may be left out if they
have a default, and what comes behind them does not matter. -/
def readRow {α : Type} (shape : RecordShape Value Fault α) (span : Span) :
    Nat → List (Field Value Fault α) → List Value → α → Except Fault α
  | _, [], _, a => .ok a
  | n, field :: fields, v :: rest, a => do
    readRow shape span (n + 1) fields rest (← field.put v a)
  | n, field :: fields, [], a =>
    if field.requiredInRow then fail (.mismatch (.length n shape.expectedRow)) span
    else readRow shape span (n + 1) fields [] a

def readRecord {α : Type} (shape : RecordShape Value Fault α) : Value → Except Fault α
  | table span _ entries => do
    let (seen, a) ← readFields shape [] shape.initial entries
    match shape.missing? seen with
    | none => pure a
    | some name => fail (.mismatch (.missing name)) span
  | list span _ items => readRow shape span 0 shape.fields items shape.initial
  | v => .error (v.unexpected shape.expected)

instance : Notation Value Fault where
  text := readText
  flag := readFlag
  index := readIndex
  choice := readChoice
  list := readList
  entries := readEntries
  record := readRecord

end Value

def readWith {α : Type} (read : Value → Except Fault α) (text : String) : Except String α :=
  (do read (← parse text)).mapError (Fault.message text)

def readTable (text : String) : Except String TableSpec := readWith TableSpec.decode text

end CleanSql.Toml
