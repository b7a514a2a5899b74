import Mathlib.Data.List.Forall2
import Mathlib.Data.Option.Basic
import CleanSql.Decode.Table

/-!
# Notations that agree

Two notations agree along a relation of their nodes if each reader of the one comes to the same as
that of the other. What is said where nothing can be read may differ. The shape of a table document
is the same for all notations, so that a table is then decoded alike from related nodes
(`TableSpec.decode_agree`).
-/
namespace CleanSql

theorem toOption_bind {E α β : Type} (x : Except E α) (f : α → Except E β) :
    (x >>= f).toOption = x.toOption.bind fun a => (f a).toOption := by
  cases x <;> rfl

theorem toOption_map {E α β : Type} (x : Except E α) (f : α → β) :
    (x.map f).toOption = x.toOption.map f := by
  cases x <;> rfl

theorem toOption_eq_some_iff {E α : Type} {x : Except E α} {a : α} :
    x.toOption = some a ↔ x = .ok a := by
  cases x <;> simp [Except.toOption]

variable {N E N' E' α : Type}

theorem RecordShape.missing?_eq_none_iff {s : RecordShape N E α} {seen : List String} :
    s.missing? seen = none ↔ ∀ f ∈ s.fields, f.required → f.name ∈ seen := by
  simp [missing?]

/-- Two readers come to the same on related nodes. -/
def ReadAlike (R : N → N' → Prop) (read : N → Except E α) (read' : N' → Except E' α) : Prop :=
  ∀ ⦃n n'⦄, R n n' → (read n).toOption = (read' n').toOption

/-- Two fields are the same but for the notation that they are read from. -/
structure Field.Alike (R : N → N' → Prop) (f : Field N E α) (f' : Field N' E' α) : Prop where
  name : f.name = f'.name
  required : f.required = f'.required
  requiredInRow : f.requiredInRow = f'.requiredInRow
  put : ∀ ⦃n n'⦄, R n n' → ∀ a, (f.put n a).toOption = (f'.put n' a).toOption

/-- Two shapes have the same fields in the same order, with the same defaults. -/
structure RecordShape.Alike (R : N → N' → Prop) (s : RecordShape N E α) (s' : RecordShape N' E' α) :
    Prop where
  initial : s.initial = s'.initial
  fields : List.Forall₂ (Field.Alike R) s.fields s'.fields

theorem Field.Alike.of {β : Type} {R : N → N' → Prop} {read : N → Except E β}
    {read' : N' → Except E' β} (h : ReadAlike R read read') (name : String) (set : β → α → α)
    (required requiredInRow : Bool) :
    Alike R (.of name read set required requiredInRow)
      (.of name read' set required requiredInRow) where
  name := rfl
  required := rfl
  requiredInRow := rfl
  put n n' hn a := by
    rw [Field.of, Field.of, toOption_map, toOption_map, h hn]

namespace RecordShape.Alike

variable {R : N → N' → Prop} {s : RecordShape N E α} {s' : RecordShape N' E' α}

/-- A key belongs to a field of the one shape if it does to one of the other, and to the same. -/
theorem field? (h : Alike R s s') (key : String) :
    Option.Rel (Field.Alike R) (s.field? key) (s'.field? key) := by
  have hfields := h.fields
  unfold RecordShape.field?
  generalize s.fields = fs, s'.fields = fs' at hfields ⊢
  induction hfields with
  | nil => exact .none
  | @cons f f' _ _ hf _ ih =>
    rw [List.find?_cons, List.find?_cons, ← hf.name]
    cases decide (f.name = key) with
    | true => exact .some hf
    | false => exact ih

theorem missing? (h : Alike R s s') (seen : List String) : s.missing? seen = s'.missing? seen := by
  have hfields := h.fields
  unfold RecordShape.missing?
  generalize s.fields = fs, s'.fields = fs' at hfields ⊢
  induction hfields with
  | nil => rfl
  | @cons f f' _ _ hf _ ih =>
    rw [List.find?_cons, List.find?_cons, ← hf.name, ← hf.required]
    cases f.required && !seen.contains f.name with
    | true => exact congrArg some hf.name
    | false => exact ih

end RecordShape.Alike

/-- Two notations agree along a relation of their nodes. -/
structure Notation.Agree [Notation N E] [Notation N' E'] (R : N → N' → Prop) : Prop where
  text : ReadAlike R Notation.text Notation.text
  flag : ReadAlike R Notation.flag Notation.flag
  index : ReadAlike R Notation.index Notation.index
  choice {α : Type} (choices : List (String × α)) :
    ReadAlike R (Notation.choice choices) (Notation.choice choices)
  list {α : Type} {read : N → Except E α} {read' : N' → Except E' α} :
    ReadAlike R read read' → ReadAlike R (Notation.list read) (Notation.list read')
  entries {α : Type} {read : N → Except E α} {read' : N' → Except E' α} :
    ReadAlike R read read' → ReadAlike R (Notation.entries read) (Notation.entries read')
  record {α : Type} {s : RecordShape N E α} {s' : RecordShape N' E' α} :
    RecordShape.Alike R s s' → ReadAlike R (Notation.record s) (Notation.record s')

section Tables

variable [Notation N E] [Notation N' E'] {R : N → N' → Prop} (h : Notation.Agree R)

include h

theorem RegexTransform.shape_alike :
    RecordShape.Alike R (RegexTransform.shape (N := N)) (RegexTransform.shape (N := N')) where
  initial := rfl
  fields := .cons (.of h.flag ..) <| .cons (.of h.text ..) <| .cons (.of h.text ..) .nil

theorem WhereFilter.shape_alike :
    RecordShape.Alike R (WhereFilter.shape (N := N)) (WhereFilter.shape (N := N')) where
  initial := rfl
  fields := .cons (.of h.flag ..) <| .cons (.of h.text ..) .nil

theorem ConditionalCase.shape_alike :
    RecordShape.Alike R (ConditionalCase.shape (N := N)) (ConditionalCase.shape (N := N')) where
  initial := rfl
  fields := .cons (.of h.text ..) <| .cons (.of h.text ..) .nil

theorem ConditionalTransform.shape_alike : RecordShape.Alike R
    (ConditionalTransform.shape (N := N)) (ConditionalTransform.shape (N := N')) where
  initial := rfl
  fields := .cons (.of h.flag ..) <|
    .cons (.of (h.list (h.record (ConditionalCase.shape_alike h))) ..) <| .cons (.of h.text ..) .nil

theorem DelimiterSplit.shape_alike :
    RecordShape.Alike R (DelimiterSplit.shape (N := N)) (DelimiterSplit.shape (N := N')) where
  initial := rfl
  fields := .cons (.of h.flag ..) <| .cons (.of h.text ..) <| .cons (.of h.index ..) .nil

theorem Transformations.shape_alike :
    RecordShape.Alike R (Transformations.shape (N := N)) (Transformations.shape (N := N')) where
  initial := rfl
  fields := .cons (.of h.flag ..) <| .cons (.of (h.choice _) ..) <| .cons (.of (h.choice _) ..) <|
    .cons (.of h.text ..) <| .cons (.of h.text ..) <| .cons (.of h.flag ..) <|
    .cons (.of (h.record (RegexTransform.shape_alike h)) ..) <|
    .cons (.of (h.record (WhereFilter.shape_alike h)) ..) <|
    .cons (.of (h.record (ConditionalTransform.shape_alike h)) ..) <|
    .cons (.of (h.record (DelimiterSplit.shape_alike h)) ..) <| .cons (.of h.text ..) .nil

theorem Column.shape_alike :
    RecordShape.Alike R (Column.shape (N := N)) (Column.shape (N := N')) where
  initial := rfl
  fields := .cons (.of h.text ..) <| .cons (.of (h.choice _) ..) <| .cons (.of h.flag ..) <|
    .cons (.of (h.record (Transformations.shape_alike h)) ..) <| .cons (.of h.text ..) .nil

theorem TableSpec.shape_alike :
    RecordShape.Alike R (TableSpec.shape (N := N)) (TableSpec.shape (N := N')) where
  initial := rfl
  fields := .cons (.of h.text ..) <| .cons (.of (h.choice _) ..) <|
    .cons (.of (h.list (h.record (Column.shape_alike h))) ..) <|
    .cons (.of (h.entries h.text) ..) .nil

theorem TableSpec.decode_agree :
    ReadAlike R (TableSpec.decode (N := N)) (TableSpec.decode (N := N')) :=
  h.record (TableSpec.shape_alike h)

end Tables

end CleanSql
