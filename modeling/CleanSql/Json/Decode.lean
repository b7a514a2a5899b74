import CleanSql.Decode.Table
import CleanSql.Json.Parser
import CleanSql.Number.Shortest

/-!
# What is read from JSON documents

A record is an object, or a list of its fields in their order. A name among several is a text, or
an object with that name as its only key and `null` as its value.
-/
namespace CleanSql.Json

def Number.found : Number → Found
  | natural n => .integer n.toNat
  | negative n => .integer n
  | float x => .float (Number.Layout.scientific.writeFloat x)

namespace Node

/-- The fault of a node that is not what was expected. -/
def unexpected (expected : String) : Node → Fault
  | missing f | misspelled _ f => f
  | null _ stop => ⟨.mismatch (.type .null expected), stop⟩
  | bool _ stop b => ⟨.mismatch (.type (.bool b) expected), stop⟩
  | number _ stop read _ =>
    match read with
    | .ok n => ⟨.mismatch (.type n.found expected), stop⟩
    | .error f => f
  | text q =>
    match q.read with
    | .ok s => ⟨.mismatch (.type (.text s) expected), q.stop⟩
    | .error f => f
  | list start _ _ => ⟨.mismatch (.type .list expected), start⟩
  | record start _ _ => ⟨.mismatch (.type .map expected), start⟩

def readText : Node → Except Fault String
  | text q => q.read
  | n => .error (n.unexpected "a string")

def readFlag : Node → Except Fault Bool
  | bool _ _ b => .ok b
  | n => .error (n.unexpected "a boolean")

def readIndex : Node → Except Fault UInt64
  | number _ stop read _ => do
    match ← read with
    | .natural n => .ok n
    | .negative n => .error ⟨.mismatch (.value (.integer n) "usize"), stop⟩
    | .float x => .error ⟨.mismatch (.type (Number.float x).found "usize"), stop⟩
  | n => .error (n.unexpected "usize")

def choose {α : Type} (choices : List (String × α)) (name : String) (stop : Nat) :
    Except Fault α :=
  match choices.lookup name with
  | some a => .ok a
  | none => .error ⟨.mismatch (.variant name (choices.map (·.1))), stop⟩

def readChoice {α : Type} (choices : List (String × α)) : Node → Except Fault α
  | missing f => .error f
  | text q => do choose choices (← q.read) q.stop
  | record _ ((key, _, value, next) :: rest) ending => do
    let a ← choose choices (← key.read) key.stop
    match value with
    | null _ _ =>
      match rest, ending with
      | [], .closed _ => .ok a
      | [], .ended p => .error ⟨.endInRecord, p⟩
      | _, _ => .error ⟨.noValue, next⟩
    | n => .error (n.unexpected "unit")
  | record _ [] ending =>
    match ending with
    | .closed stop => .error ⟨.noValue, stop⟩
    | .ended p => .error ⟨.endInValue, p⟩
    | e => .error ⟨.noValue, e.stop + 1⟩
  | n => .error ⟨.noValue, n.noticed⟩

def readList {α : Type} (read : Node → Except Fault α) : Node → Except Fault (List α)
  | list _ items ending => do
    let as ← items.mapM read
    match ending.listFault? with
    | none => .ok as
    | some f => .error f
  | n => .error (n.unexpected "a sequence")

/-- Reads members in order; a later value takes the place of an earlier one. -/
def readMembers {α : Type} (read : Node → Except Fault α) :
    List (String × α) → List (Quoted × Nat × Node × Nat) → Except Fault (List (String × α))
  | done, [] => .ok done
  | done, (key, _, value, _) :: rest => do
    let k ← key.read
    let a ← read value
    readMembers read (insertEntry k a done) rest

def readEntries {α : Type} (read : Node → Except Fault α) :
    Node → Except Fault (List (String × α))
  | record _ members ending => do
    let entries ← readMembers read [] members
    match ending.recordFault? with
    | none => .ok entries
    | some f => .error f
  | n => .error (n.unexpected "a map")

/-- Reads the members of a record in order. Unknown keys are passed over; a known one may come
once. -/
def readFields {α : Type} (shape : RecordShape Node Fault α) :
    List String → α → List (Quoted × Nat × Node × Nat) → Except Fault (List String × α)
  | seen, a, [] => .ok (seen, a)
  | seen, a, (key, behind, value, _) :: rest => do
    let k ← key.read
    match shape.field? k with
    | none =>
      match value.skip? with
      | none => readFields shape seen a rest
      | some f => .error f
    | some field =>
      if seen.contains k then .error ⟨.mismatch (.duplicate k), behind⟩
      else readFields shape (k :: seen) (← field.put value a) rest

/-- Reads the fields of a record that stand in a row; those at the end may be left out if they
have a default. -/
def readRow {α : Type} (shape : RecordShape Node Fault α) (ending : Ending) :
    Nat → List (Field Node Fault α) → List Node → α → Except Fault α
  | _, [], [], a =>
    match ending.rowFault? with
    | none => .ok a
    | some f => .error f
  | _, [], extra :: _, _ => .error ⟨.trailingCharacters, extra.noticed⟩
  | n, field :: fields, item :: items, a => do
    readRow shape ending (n + 1) fields items (← field.put item a)
  | n, field :: fields, [], a =>
    match ending.listFault? with
    | some f => .error f
    | none =>
      if field.requiredInRow then .error ⟨.mismatch (.length n shape.expectedRow), ending.stop⟩
      else readRow shape ending (n + 1) fields [] a

def readRecord {α : Type} (shape : RecordShape Node Fault α) : Node → Except Fault α
  | record _ members ending => do
    let (seen, a) ← readFields shape [] shape.initial members
    match ending.recordFault? with
    | some f => .error f
    | none =>
      match shape.missing? seen with
      | none => .ok a
      | some name => .error ⟨.mismatch (.missing name), ending.stop⟩
  | list _ items ending => readRow shape ending 0 shape.fields items shape.initial
  | n => .error (n.unexpected shape.expected)

instance : Notation Node Fault where
  text := readText
  flag := readFlag
  index := readIndex
  choice := readChoice
  list := readList
  entries := readEntries
  record := readRecord

end Node

def Document.table (d : Document) : Except Fault TableSpec := do
  let t ← TableSpec.decode d.root
  match d.trailing with
  | none => pure t
  | some f => throw f

/-- The line, counted from one, and the bytes in it, before a place. -/
def lineAndColumn : Nat → List Char → Nat × Nat → Nat × Nat
  | _, [], at_ => at_
  | place, c :: rest, (line, column) =>
    if place = 0 then (line, column)
    else if c = '\n' then lineAndColumn (place - 1) rest (line + 1, 0)
    else lineAndColumn (place - c.utf8Size) rest (line, column + min place c.utf8Size)

/-- A fault in the words of a message about a text. -/
def Fault.message (text : String) (f : Fault) : String :=
  let (line, column) := lineAndColumn f.place text.toList (1, 0)
  f.cause.message ++ " at line " ++ toString line ++ " column " ++ toString column

def readTable (text : String) : Except String TableSpec :=
  (Document.parse text).table.mapError (Fault.message text)

end CleanSql.Json
