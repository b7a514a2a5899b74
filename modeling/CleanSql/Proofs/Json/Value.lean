import CleanSql.Json.Decode
import CleanSql.Proofs.Decode.Agreement

/-!
# What JSON documents say

A document as a value: its tree without the places of its parts. Values are a notation of their own,
in which a failure says nothing and an object is read at once: its known keys are different, no
required one is missing, and what they say is put into the record one after the other. A document is
decoded as its value is (`Node.agree_value`).
-/
namespace CleanSql.Json

/-- What a part of a document says. -/
inductive Value where
  /-- Behind it nothing can be read. -/
  | broken
  /-- It can be passed over but not be read: a number beyond all doubles, a text with half of a
  pair, an object with such a key. -/
  | unread
  | null
  | bool (value : Bool)
  | number (value : Number)
  | text (value : String)
  | list (items : List Value)
  | record (members : List (String × Value))

namespace Value

mutual

def isWhole : Value → Bool
  | broken => false
  | unread | null | bool _ | number _ | text _ => true
  | list items => isWholeItems items
  | record members => isWholeMembers members

def isWholeItems : List Value → Bool
  | [] => true
  | item :: rest => item.isWhole && isWholeItems rest

def isWholeMembers : List (String × Value) → Bool
  | [] => true
  | (_, value) :: rest => value.isWhole && isWholeMembers rest

end

def readText : Value → Except Unit String
  | text s => .ok s
  | _ => .error ()

def readFlag : Value → Except Unit Bool
  | bool b => .ok b
  | _ => .error ()

def readIndex : Value → Except Unit UInt64
  | number (.natural n) => .ok n
  | _ => .error ()

def choose {α : Type} (choices : List (String × α)) (name : String) : Except Unit α :=
  (choices.lookup name).elim (.error ()) .ok

def isNull : Value → Bool
  | null => true
  | _ => false

def readChoice {α : Type} (choices : List (String × α)) : Value → Except Unit α
  | text name => choose choices name
  | record [(name, value)] => if value.isNull then choose choices name else .error ()
  | _ => .error ()

def readList {α : Type} (read : Value → Except Unit α) : Value → Except Unit (List α)
  | list items => items.mapM read
  | _ => .error ()

def putEntry {α : Type} (read : Value → Except Unit α) (done : List (String × α))
    (m : String × Value) : Except Unit (List (String × α)) :=
  (read m.2).map fun a => insertEntry m.1 a done

def readEntries {α : Type} (read : Value → Except Unit α) :
    Value → Except Unit (List (String × α))
  | record members => members.foldlM (putEntry read) []
  | _ => .error ()

section Records

variable {α : Type} (shape : RecordShape Value Unit α)

/-- What a member of an object does to a record. An unknown one does nothing. -/
def putMember (a : Except Unit α) (m : String × Value) : Except Unit α :=
  match shape.field? m.1 with
  | some f => a.bind (f.put m.2)
  | none => if m.2.isWhole then a else .error ()

def knownKeys (members : List (String × Value)) : List String :=
  (members.map Prod.fst).filter fun key => (shape.field? key).isSome

/-- The fields that a row stops short of have a default. -/
def RowFits (fields : List (Field Value Unit α)) (items : List Value) : Prop :=
  items.length ≤ fields.length ∧ ∀ f ∈ fields.drop items.length, f.requiredInRow = false

instance (fields : List (Field Value Unit α)) (items : List Value) :
    Decidable (RowFits fields items) :=
  inferInstanceAs (Decidable (_ ∧ _))

def putItem (a : Except Unit α) (m : Field Value Unit α × Value) : Except Unit α :=
  a.bind (m.1.put m.2)

def readRecord : Value → Except Unit α
  | record members =>
    if (knownKeys shape members).Nodup ∧ shape.missing? (members.map Prod.fst) = none then
      members.foldl (putMember shape) (.ok shape.initial)
    else .error ()
  | list items =>
    if RowFits shape.fields items then
      (shape.fields.zip items).foldl putItem (.ok shape.initial)
    else .error ()
  | _ => .error ()

end Records

instance : Notation Value Unit where
  text := readText
  flag := readFlag
  index := readIndex
  choice := readChoice
  list := readList
  entries := readEntries
  record := readRecord

def keyed? : Value × Value → Option (String × Value)
  | (text key, value) => some (key, value)
  | _ => none

/-- An object by what its keys and its members say. Unless all keys are read, none is. -/
def ofMembers (members : List (Value × Value)) : Value :=
  match members.mapM keyed? with
  | some members => record members
  | none => if members.all fun m => m.1.isWhole && m.2.isWhole then unread else broken

end Value

namespace Quoted

def value (q : Quoted) : Value :=
  if q.skip.isSome then .broken
  else
    match q.read with
    | .ok s => .text s
    | .error _ => .unread

/-- What can be read can be passed over. -/
def Sound (q : Quoted) : Prop := ∀ s, q.read = .ok s → q.skip = none

theorem toOption_read {q : Quoted} (h : q.Sound) : q.read.toOption = q.value.readText.toOption := by
  unfold value
  cases hread : q.read with
  | ok s =>
    rw [h s hread]
    rfl
  | error f => split_ifs <;> rfl

theorem value_of_read {q : Quoted} (h : q.Sound) {s : String} (hread : q.read = .ok s) :
    q.value = .text s := by
  rw [value, h s hread, hread]
  rfl

theorem value_cases (q : Quoted) :
    (∃ s, q.value = .text s) ∨ q.value = .unread ∨ q.value = .broken := by
  unfold value
  split_ifs
  · exact .inr (.inr rfl)
  cases q.read with
  | ok s => exact .inl ⟨s, rfl⟩
  | error f => exact .inr (.inl rfl)

theorem isWhole_value (q : Quoted) : q.value.isWhole ↔ q.skip = none := by
  unfold value
  cases q.skip with
  | some f => simp [Value.isWhole]
  | none => cases q.read <;> simp [Value.isWhole]

end Quoted

namespace Node

mutual

def value : Node → Value
  | missing _ | misspelled _ _ => .broken
  | null _ _ => .null
  | bool _ _ b => .bool b
  | number _ _ read skip =>
    if skip.isSome then .broken
    else
      match read with
      | .ok n => .number n
      | .error _ => .unread
  | text q => q.value
  | list _ items ending =>
    match ending with
    | .closed _ => .list (valueItems items)
    | _ => .broken
  | record _ members ending =>
    match ending with
    | .closed _ => .ofMembers (valueMembers members)
    | _ => .broken

def valueItems : List Node → List Value
  | [] => []
  | item :: rest => item.value :: valueItems rest

def valueMembers : List (Quoted × Nat × Node × Nat) → List (Value × Value)
  | [] => []
  | (key, _, value, _) :: rest => (key.value, value.value) :: valueMembers rest

end

mutual

/-- What can be read of a node can be passed over. -/
def Sound : Node → Prop
  | missing _ | misspelled _ _ | null _ _ | bool _ _ _ => True
  | number _ _ read skip => ∀ n, read = .ok n → skip = none
  | text q => q.Sound
  | list _ items _ => SoundItems items
  | record _ members _ => SoundMembers members

def SoundItems : List Node → Prop
  | [] => True
  | item :: rest => item.Sound ∧ SoundItems rest

def SoundMembers : List (Quoted × Nat × Node × Nat) → Prop
  | [] => True
  | (key, _, value, _) :: rest => (key.Sound ∧ value.Sound) ∧ SoundMembers rest

end

end Node

namespace Value

theorem isWholeItems_iff {items : List Value} :
    isWholeItems items ↔ ∀ item ∈ items, item.isWhole := by
  induction items with
  | nil => simp [isWholeItems]
  | cons item rest ih => simp [isWholeItems, ih]

theorem isWholeMembers_iff {members : List (String × Value)} :
    isWholeMembers members ↔ ∀ m ∈ members, m.2.isWhole := by
  induction members with
  | nil => simp [isWholeMembers]
  | cons m rest ih => simp [isWholeMembers, ih]

section Records

variable {α : Type} {shape : RecordShape Value Unit α} {key : String}

theorem knownKeys_cons_of_unknown (h : shape.field? key = none) (value : Value)
    (members : List (String × Value)) :
    knownKeys shape ((key, value) :: members) = knownKeys shape members := by
  simp [knownKeys, h]

theorem knownKeys_cons_of_known {f : Field Value Unit α} (h : shape.field? key = some f)
    (value : Value) (members : List (String × Value)) :
    knownKeys shape ((key, value) :: members) = key :: knownKeys shape members := by
  simp [knownKeys, h]

theorem putMember_of_unknown (h : shape.field? key = none) (a : Except Unit α) (value : Value) :
    putMember shape a (key, value) = if value.isWhole then a else .error () := by
  rw [putMember, h]

theorem putMember_of_known {f : Field Value Unit α} (h : shape.field? key = some f)
    (a : Except Unit α) (value : Value) :
    putMember shape a (key, value) = a.bind (f.put value) := by
  rw [putMember, h]

theorem mem_knownKeys {f : Field Value Unit α} (h : f ∈ shape.fields)
    (members : List (String × Value)) :
    f.name ∈ knownKeys shape members ↔ f.name ∈ members.map Prod.fst := by
  have hfield : (shape.field? f.name).isSome := by
    rw [RecordShape.field?, List.find?_isSome]
    exact ⟨f, h, decide_eq_true rfl⟩
  rw [knownKeys, List.mem_filter]
  exact and_iff_left hfield

theorem foldl_putMember_error (members : List (String × Value)) :
    members.foldl (putMember shape) (.error ()) = .error () := by
  induction members with
  | nil => rfl
  | cons m members ih =>
    have hstep : putMember shape (.error ()) m = .error () := by
      unfold putMember
      cases shape.field? m.1 with
      | none => exact ite_self _
      | some f => rfl
    rw [List.foldl_cons, hstep, ih]

theorem rowFits_cons_cons (f : Field Value Unit α) (fields : List (Field Value Unit α))
    (item : Value) (items : List Value) :
    RowFits (f :: fields) (item :: items) ↔ RowFits fields items := by
  simp [RowFits]

theorem foldl_putItem_error (items : List (Field Value Unit α × Value)) :
    items.foldl putItem (.error ()) = .error () := by
  induction items with
  | nil => rfl
  | cons item items ih => exact ih

end Records

theorem keyed?_eq_some_iff {m : Value × Value} {r : String × Value} :
    keyed? m = some r ↔ m = (text r.1, r.2) := by
  obtain ⟨key, value⟩ := m
  cases key <;> simp [keyed?, Prod.ext_iff]

theorem mapM_keyed?_eq_some_iff {members : List (Value × Value)} {read : List (String × Value)} :
    members.mapM keyed? = some read ↔ members = read.map fun r => (text r.1, r.2) := by
  induction members generalizing read with
  | nil => cases read <;> simp
  | cons m rest ih =>
    rw [List.mapM_cons]
    constructor
    · intro h
      obtain ⟨r, hr, hrest⟩ := Option.bind_eq_some_iff.mp h
      obtain ⟨read', hread, heq⟩ := Option.bind_eq_some_iff.mp hrest
      cases heq
      rw [List.map_cons, ← ih.mp hread, keyed?_eq_some_iff.mp hr]
    · intro h
      cases read with
      | nil => cases h
      | cons r read =>
        obtain ⟨hm, hrest⟩ := List.cons.inj h
        rw [keyed?_eq_some_iff.mpr hm, ih.mpr hrest]
        rfl

theorem isWhole_ofMembers (members : List (Value × Value)) :
    (ofMembers members).isWhole ↔ ∀ m ∈ members, m.1.isWhole ∧ m.2.isWhole := by
  unfold ofMembers
  cases hread : members.mapM keyed? with
  | some read =>
    rw [mapM_keyed?_eq_some_iff.mp hread, List.forall_mem_map]
    simp [isWhole, isWholeMembers_iff]
  | none =>
    dsimp only
    split_ifs with h <;> simpa [isWhole] using h

theorem not_isNull_ofMembers (members : List (Value × Value)) : ¬ (ofMembers members).isNull := by
  unfold ofMembers
  cases members.mapM keyed? with
  | some read => exact Bool.false_ne_true
  | none =>
    dsimp only
    split_ifs <;> exact Bool.false_ne_true

end Value

namespace Ending

theorem listFault?_eq_none_iff (e : Ending) : e.listFault? = none ↔ ∃ stop, e = closed stop := by
  cases e <;> simp [listFault?]

theorem recordFault?_eq_none_iff (e : Ending) :
    e.recordFault? = none ↔ ∃ stop, e = closed stop := by
  cases e <;> simp [recordFault?]

end Ending

namespace Node

theorem eq_null_of_isNull_value {n : Node} (h : n.value.isNull) :
    ∃ start stop, n = null start stop := by
  cases n with
  | null start stop => exact ⟨start, stop, rfl⟩
  | missing | misspelled | bool => cases h
  | number _ _ read skip => cases read <;> cases skip <;> cases h
  | text q => rcases q.value_cases with ⟨s, hq⟩ | hq | hq <;> rw [value, hq] at h <;> cases h
  | list _ items ending => cases ending <;> cases h
  | record _ members ending =>
    cases ending with
    | closed stop => exact absurd h (Value.not_isNull_ofMembers _)
    | _ => cases h

mutual

theorem skip?_eq_none_iff : ∀ n : Node, n.skip? = none ↔ n.value.isWhole
  | missing _ | misspelled _ _ | null _ _ | bool _ _ _ => by simp [skip?, value, Value.isWhole]
  | number _ _ read skip => by
    cases skip <;> cases read <;> simp [skip?, value, Value.isWhole]
  | text q => by rw [skip?, value, q.isWhole_value]
  | list _ items ending => by
    rw [skip?, Option.or_eq_none_iff, skipItems?_eq_none_iff items]
    cases ending <;>
      simp [value, Ending.listSkip?, Ending.listFault?, Value.isWhole, Value.isWholeItems_iff]
  | record _ members ending => by
    rw [skip?, Option.or_eq_none_iff, skipMembers?_eq_none_iff members]
    cases ending <;>
      simp [value, Ending.recordSkip?, Ending.recordFault?, Value.isWhole, Value.isWhole_ofMembers]

theorem skipItems?_eq_none_iff : ∀ items : List Node,
    skipItems? items = none ↔ ∀ v ∈ valueItems items, v.isWhole
  | [] => by simp [skipItems?, valueItems]
  | item :: rest => by
    rw [skipItems?, Option.or_eq_none_iff, skip?_eq_none_iff item, skipItems?_eq_none_iff rest,
      valueItems, List.forall_mem_cons]

theorem skipMembers?_eq_none_iff : ∀ members : List (Quoted × Nat × Node × Nat),
    skipMembers? members = none ↔ ∀ m ∈ valueMembers members, m.1.isWhole ∧ m.2.isWhole
  | [] => by simp [skipMembers?, valueMembers]
  | (key, _, value, _) :: rest => by
    rw [skipMembers?, Option.or_eq_none_iff, Option.or_eq_none_iff, skip?_eq_none_iff value,
      skipMembers?_eq_none_iff rest, valueMembers, List.forall_mem_cons, key.isWhole_value]

end

end Node

end CleanSql.Json
