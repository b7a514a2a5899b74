/-!
# Shapes of documents

The nodes of a document are read by what is expected of them. A record is read by its fields,
starting from a value in which every field has its default.
-/
namespace CleanSql

/-- One field of a record: how its node changes the record. -/
structure Field (N E α : Type) where
  name : String
  required : Bool
  /-- Whether it has to stand in a row of fields. -/
  requiredInRow : Bool
  put : N → α → Except E α

structure RecordShape (N E α : Type) where
  name : String
  /-- Every field at its default; what stands for a required one is never seen. -/
  initial : α
  fields : List (Field N E α)

/-- A notation for documents with nodes `N` and errors `E`. -/
class Notation (N : Type) (E : outParam Type) where
  text : N → Except E String
  flag : N → Except E Bool
  /-- A whole number that fits into a word. -/
  index : N → Except E UInt64
  /-- One of several names. -/
  choice : {α : Type} → List (String × α) → N → Except E α
  list : {α : Type} → (N → Except E α) → N → Except E (List α)
  /-- A map with keys of any name, in order. -/
  entries : {α : Type} → (N → Except E α) → N → Except E (List (String × α))
  record : {α : Type} → RecordShape N E α → N → Except E α

def Field.of {N E α β : Type} (name : String) (read : N → Except E β) (set : β → α → α)
    (required : Bool := false) (requiredInRow : Bool := required) : Field N E α where
  name := name
  required := required
  requiredInRow := requiredInRow
  put := fun n a => (read n).map fun b => set b a

namespace RecordShape

variable {N E α : Type}

def fieldNames (s : RecordShape N E α) : List String := s.fields.map (·.name)

def field? (s : RecordShape N E α) (name : String) : Option (Field N E α) :=
  s.fields.find? (·.name = name)

def missing? (s : RecordShape N E α) (seen : List String) : Option String :=
  (s.fields.find? fun f => f.required && !seen.contains f.name).map (·.name)

def expected (s : RecordShape N E α) : String := "struct " ++ s.name

/-- How a record is called where its fields stand in a row. -/
def expectedRow (s : RecordShape N E α) : String :=
  let n := s.fields.length
  s.expected ++ " with " ++ toString n ++ (if n = 1 then " element" else " elements")

end RecordShape

/-- A map in which a later value takes the place of an earlier one. -/
def insertEntry {α : Type} (key : String) (value : α) : List (String × α) → List (String × α)
  | [] => [(key, value)]
  | (k, v) :: rest => if k = key then (k, value) :: rest else (k, v) :: insertEntry key value rest

end CleanSql
