import CleanSql.Decode.Table
import CleanSql.Number.Shortest
import CleanSql.Yaml.Parser
import CleanSql.Yaml.Scalar

/-!
# What is read from YAML documents

A scalar without quotes may be a flag or a number; every scalar may be a text. Nothing at all may
stand for an empty list or record. A name among several is a text or a tag.
-/
namespace CleanSql.Yaml

def Meaning.found : Meaning → String → Found
  | null, _ => .unit
  | bool b, _ => .bool b
  | int n, _ => if -(Int.pow 2 63) ≤ n ∧ n < Int.pow 2 64 then .integer n else .wide n (n < 0)
  | float x, _ => .float (Number.Layout.plain.writeFloat x)
  | text, s => .text s

/-- A scalar with the tag of a kind is of this kind or at fault. -/
def taggedMismatch (tag s expected : String) : Option Mismatch :=
  if tag = commonTag "bool" then
    match boolOf? s with
    | some b => some (.type (.bool b) expected)
    | none => some (.value (.text s) "a boolean")
  else if tag = commonTag "int" then
    match Meaning.wholeOf? s with
    | some n => some (.type (Meaning.found (.int n) s) expected)
    | none => some (.value (.text s) "an integer")
  else if tag = commonTag "float" then
    match floatOf? s with
    | some x => some (.type (Meaning.found (.float x) s) expected)
    | none => some (.value (.text s) "a float")
  else if tag = commonTag "null" then
    match nullOf? s with
    | some () => some (.type .unit expected)
    | none => some (.value (.text s) "null")
  else none

/-- What is wrong with a scalar that is not what was expected. -/
def scalarMismatch (tag : Option String) (style : Style) (s expected : String) : Mismatch :=
  match tag with
  | none =>
    .type (if style = .plain then (Meaning.of s).found s else .text s) expected
  | some tag =>
    match taggedMismatch tag s expected with
    | some m => m
    | none =>
      .type (if tag.startsWith "!" && style = .plain then (Meaning.of s).found s else .text s)
        expected

def ownName? (tag : Option String) : Option String :=
  match tag.map String.toList with
  | some ['!'] => some "!"
  | some ('!' :: name) => some (String.ofList name)
  | _ => none

/-- A node with the way to it, in its document. -/
structure Site where
  node : Node
  path : Path
  anchors : Anchors

namespace Site

/-- The node itself, or the one that it is an alias of. -/
def target (s : Site) : Node :=
  match s.node with
  | .reference place n => (s.anchors.node? n).getD (emptyScalar place)
  | n => n

def item (s : Site) (index : Nat) (n : Node) : Site := { s with node := n, path := .item index :: s.path }

def entry (s : Site) (key value : Node) : Site :=
  let step := match key with
    | .scalar _ _ _ name => Step.entry name
    | _ => Step.aliased
  { s with node := value, path := step :: s.path }

def key (s : Site) (n : Node) : Site := { s with node := n }

/-- The fault of a node that is not what was expected. -/
def unexpected (s : Site) (expected : String) : Fault :=
  match s.target with
  | .missing f => f
  | .scalar place tag style text =>
    .shape (scalarMismatch tag style text expected) (some (s.path, place))
  | .reference place _ => .shape (.type .unit expected) (some (s.path, place))
  | .list place _ _ _ => .shape (.type .list expected) (some (s.path, place))
  | .map place _ _ _ => .shape (.type .map expected) (some (s.path, place))

def readText (s : Site) : Except Fault String :=
  match s.target with
  | .scalar _ _ _ text => .ok text
  | _ => .error (s.unexpected "a string")

def readName (s : Site) : Except Fault String :=
  match s.target with
  | .scalar _ _ _ text => .ok text
  | _ => .error (s.unexpected "field identifier")

/-- Whether a scalar may have a meaning other than its text. -/
def hasMeaning (kind : String) (tag : Option String) (style : Style) : Bool :=
  style = .plain || style = .literal && tag = some (commonTag kind)

def readFlag (s : Site) : Except Fault Bool :=
  let fail := .error (s.unexpected "a boolean")
  match s.target with
  | .scalar _ tag style text =>
    if hasMeaning "bool" tag style then (boolOf? text).elim fail .ok else fail
  | _ => fail

def readIndex (s : Site) : Except Fault UInt64 :=
  let fail := .error (s.unexpected "usize")
  match s.target with
  | .scalar _ tag style text =>
    if hasMeaning "int" tag style then
      match naturalOf? text with
      | some n => if n < UInt64.size then .ok (UInt64.ofNat n) else fail
      | none => fail
    else fail
  | _ => fail

/-- Reads what stands behind a name that is given as a tag, which is nothing. -/
def readNothing (s : Site) : Except Fault Unit :=
  match s.target with
  | .scalar place _ style text =>
    if style = .plain && (text.isEmpty || (nullOf? text).isSome) then .ok ()
    else .error (.shape (.value (.text text) "null") (some (s.path, place)))
  | _ => .error (s.unexpected "unit")

/-- The value of a name. The fault does not say where it is. -/
def choose {α : Type} (choices : List (String × α)) (name : String) : Except Fault α :=
  match choices.lookup name with
  | some a => .ok a
  | none => .error (.shape (.variant name (choices.map (·.1))) none)

/-- Reads one of several names. A wrong tag is a fault of the record that it is a part of. -/
def readTargetChoice {α : Type} (choices : List (String × α)) (s : Site) : Except Fault α :=
  let named (tag : Option String) (otherwise : Except Fault α) : Except Fault α :=
    match ownName? tag with
    | some name => do
      let a ← choose choices name
      s.readNothing
      pure a
    | none => otherwise
  match s.target with
  | .missing f => .error f
  | .scalar place tag _ text =>
    named tag ((choose choices text).mapError (Fault.locate s.path place))
  | .list _ tag _ _ | .map _ tag _ _ => named tag (.error (s.unexpected "a YAML tag starting with '!'"))
  | .reference _ _ => .error (s.unexpected "a YAML tag starting with '!'")

/-- Reads one of several names. Where an alias stands for it, a wrong tag is a fault there. -/
def readChoice {α : Type} (choices : List (String × α)) (s : Site) : Except Fault α :=
  match s.node with
  | .reference place _ => (s.readTargetChoice choices).mapError (Fault.locate s.path place)
  | _ => s.readTargetChoice choices

def isNothing : Node → Bool
  | .scalar _ _ .plain "" => true
  | _ => false

def readItems {α : Type} (read : Site → Except Fault α) (s : Site) :
    Nat → List Node → Except Fault (List α)
  | _, [] => .ok []
  | index, n :: rest => do
    let a ← read (s.item index n)
    let as ← readItems read s (index + 1) rest
    pure (a :: as)

/-- Faults that a part of a list or a record leaves without a place are found at its start. -/
def within {α : Type} (s : Site) (place : Mark) (a : Except Fault α) : Except Fault α :=
  a.mapError (Fault.locate s.path place)

def readList {α : Type} (read : Site → Except Fault α) (s : Site) : Except Fault (List α) :=
  match s.target with
  | .list place _ items stop => s.within place do
    let as ← readItems read s 0 items
    match stop with
    | none => pure as
    | some f => throw f
  | n => if isNothing n then .ok [] else .error (s.unexpected "a sequence")

/-- Reads entries in order; a later value takes the place of an earlier one. -/
def readMembers {α : Type} (read : Site → Except Fault α) (s : Site) :
    List (String × α) → List (Node × Node) → Except Fault (List (String × α))
  | done, [] => .ok done
  | done, (key, value) :: rest => do
    let k ← (s.key key).readText
    let a ← read (s.entry key value)
    readMembers read s (insertEntry k a done) rest

def readEntries {α : Type} (read : Site → Except Fault α) (s : Site) :
    Except Fault (List (String × α)) :=
  match s.target with
  | .map place _ entries stop => s.within place do
    let as ← readMembers read s [] entries
    match stop with
    | none => pure as
    | some f => throw f
  | n => if isNothing n then .ok [] else .error (s.unexpected "a map")

/-- Reads the entries of a record in order. Unknown keys are passed over; a known one may come
once. -/
def readFields {α : Type} (shape : RecordShape Site Fault α) (s : Site) :
    List String → α → List (Node × Node) → Except Fault (List String × α)
  | seen, a, [] => .ok (seen, a)
  | seen, a, (key, value) :: rest => do
    let k ← (s.key key).readName
    match shape.field? k with
    | none =>
      match value.skip? with
      | none => readFields shape s seen a rest
      | some f => throw f
    | some field =>
      if seen.contains k then throw (.shape (.duplicate k) none)
      else readFields shape s (k :: seen) (← field.put (s.entry key value) a) rest

/-- Reads the record that a map is, or the one that nothing at all is. -/
def readFieldsOf {α : Type} (shape : RecordShape Site Fault α) (s : Site)
    (entries : List (Node × Node)) (stop : Option Fault) : Except Fault α := do
  let (seen, a) ← readFields shape s [] shape.initial entries
  match stop with
  | some f => throw f
  | none =>
    match shape.missing? seen with
    | none => pure a
    | some name => throw (.shape (.missing name) none)

def readRecord {α : Type} (shape : RecordShape Site Fault α) (s : Site) : Except Fault α :=
  match s.target with
  | .map place _ entries stop => s.within place (readFieldsOf shape s entries stop)
  | .scalar place tag style text =>
    if isNothing (.scalar place tag style text) then s.within place (readFieldsOf shape s [] none)
    else .error (s.unexpected shape.expected)
  | _ => .error (s.unexpected shape.expected)

instance : Notation Site Fault where
  text := readText
  flag := readFlag
  index := readIndex
  choice := readChoice
  list := readList
  entries := readEntries
  record := readRecord

end Site

def Document.table (d : Document) : Except Fault TableSpec := do
  let t ← TableSpec.decode (Site.mk d.root [] d.anchors)
  match d.trailing with
  | none => pure t
  | some f => throw f

def readTable (text : String) : Except String TableSpec :=
  (Document.parse text).table.mapError Fault.message

end CleanSql.Yaml
