import CleanSql.Proofs.Json.Object
import CleanSql.Proofs.Json.Printing
import CleanSql.Table.Tree

/-!
# Tables are read back from their documents

Every field of a record is written under the name that it is read by, in the order of the shape, and
what is left out is filled in (`Value.Fills`). So a table is read back from its text
(`TableSpec.ofText_toJson`).
-/
namespace CleanSql

open Json

namespace Json.Value

variable {α : Type}

/-- The members, in the order of the fields, change one record into another. Fields are left out at
the end only, and not if they are required. -/
inductive Fills : List (Field Value Unit α) → α → List (String × Value) → α → Prop
  | nil {fields : List (Field Value Unit α)} {a : α} (h : ∀ f ∈ fields, f.required = false) :
      Fills fields a [] a
  | cons {f : Field Value Unit α} {fields : List (Field Value Unit α)} {a b c : α} {value : Value}
      {members : List (String × Value)} (h : f.put value a = .ok b)
      (hrest : Fills fields b members c) : Fills (f :: fields) a ((f.name, value) :: members) c

namespace Fills

variable {fields : List (Field Value Unit α)} {a b : α} {members : List (String × Value)}

theorem keys_prefix (h : Fills fields a members b) :
    members.map Prod.fst <+: fields.map (·.name) := by
  induction h with
  | nil => exact List.nil_prefix
  | cons _ _ ih => exact List.prefix_cons_inj _ |>.mpr ih

theorem required (h : Fills fields a members b) :
    ∀ f ∈ fields, f.required → f.name ∈ members.map Prod.fst := by
  induction h with
  | nil h => exact fun f hf hrequired => absurd ((h f hf).symm.trans hrequired) nofun
  | cons _ _ ih =>
    refine List.forall_mem_cons.mpr ⟨fun _ => List.mem_cons_self, fun f hf hrequired => ?_⟩
    exact List.mem_cons_of_mem _ (ih f hf hrequired)

variable {shape : RecordShape Value Unit α}

theorem foldl_putMember (h : Fills fields a members b)
    (hfields : ∀ f ∈ fields, shape.field? f.name = some f) :
    members.foldl (putMember shape) (.ok a) = .ok b := by
  induction h with
  | nil => rfl
  | cons hput _ ih =>
    obtain ⟨hf, hrest⟩ := List.forall_mem_cons.mp hfields
    rw [List.foldl_cons, putMember_of_known hf]
    change List.foldl _ (Field.put _ _ _) _ = _
    rw [hput]
    exact ih hrest

theorem readRecord (hnames : shape.fieldNames.Nodup)
    (h : Fills shape.fields shape.initial members b) :
    Value.readRecord shape (.record members) = .ok b := by
  have hfields : ∀ f ∈ shape.fields, shape.field? f.name = some f :=
    fun f hf => RecordShape.field?_name hnames hf
  have hknown : (knownKeys shape members).Nodup :=
    (hnames.sublist h.keys_prefix.sublist).filter _
  have hmissing : shape.missing? (members.map Prod.fst) = none :=
    RecordShape.missing?_eq_none_iff.mpr h.required
  rw [Value.readRecord, if_pos ⟨hknown, hmissing⟩, h.foldl_putMember hfields]

end Fills

end Json.Value

theorem Field.put_of {β : Type} {read : Value → Except Unit β} {set : β → α → α} {value : Value}
    {b : β} (h : read value = .ok b) (name : String) (r q : Bool) (a : α) :
    (Field.of name read set r q).put value a = .ok (set b a) := by
  change (read value).map _ = _
  rw [h]
  rfl

theorem Json.Value.readChoice_of_lookup {choices : List (String × α)} {name : String} {a : α}
    (h : choices.lookup name = some a) : Value.readChoice choices (.text name) = .ok a := by
  rw [readChoice, choose, h]
  rfl

theorem Json.Value.readList_ofList {β : Type} {read : Value → Except Unit β} {toData : β → Data}
    (h : ∀ b, read (.ofData (toData b)) = .ok b) (bs : List β) :
    readList read (.ofData (.ofList toData bs)) = .ok bs := by
  rw [Data.ofList, ofData, readList]
  induction bs with
  | nil => rfl
  | cons b bs ih =>
    rw [List.map_cons, ofDataItems, List.mapM_cons, h, ih]
    rfl

theorem CaseNormalization.lookup_name (c : CaseNormalization) : choices.lookup c.name = some c := by
  cases c <;> rfl

theorem NullStrategy.lookup_name (s : NullStrategy) : choices.lookup s.name = some s := by
  cases s <;> rfl

theorem DataType.lookup_name (t : DataType) : choices.lookup t.name = some t := by
  cases t <;> rfl

theorem Layer.lookup_name (l : Layer) : choices.lookup l.name = some l := by
  cases l <;> rfl

theorem RegexTransform.read_toData (r : RegexTransform) :
    Value.readRecord shape (.ofData r.toData) = .ok r :=
  Value.Fills.readRecord (by decide) <| .cons rfl <| .cons rfl <| .cons rfl <| .nil nofun

theorem WhereFilter.read_toData (w : WhereFilter) :
    Value.readRecord shape (.ofData w.toData) = .ok w :=
  Value.Fills.readRecord (by decide) <| .cons rfl <| .cons rfl <| .nil nofun

theorem ConditionalCase.read_toData (c : ConditionalCase) :
    Value.readRecord shape (.ofData c.toData) = .ok c :=
  Value.Fills.readRecord (by decide) <| .cons rfl <| .cons rfl <| .nil nofun

theorem ConditionalTransform.read_toData (c : ConditionalTransform) :
    Value.readRecord shape (.ofData c.toData) = .ok c :=
  have hcases := Value.readList_ofList ConditionalCase.read_toData c.cases
  Value.Fills.readRecord (by decide) <| .cons rfl <| .cons (Field.put_of hcases ..) <|
    .cons rfl <| .nil nofun

theorem DelimiterSplit.read_toData (s : DelimiterSplit) :
    Value.readRecord shape (.ofData s.toData) = .ok s :=
  have hindex : Value.readIndex (.ofData (.nat s.index.toNat)) = .ok s.index :=
    congrArg Except.ok UInt64.ofNat_toNat
  Value.Fills.readRecord (by decide) <| .cons rfl <| .cons rfl <|
    .cons (Field.put_of hindex ..) <| .nil nofun

theorem Transformations.read_toData (t : Transformations) :
    Value.readRecord shape (.ofData t.toData) = .ok t :=
  have hcase := Value.readChoice_of_lookup t.caseNormalization.lookup_name
  have hnull := Value.readChoice_of_lookup t.nullStrategy.lookup_name
  Value.Fills.readRecord (by decide) <| .cons rfl <| .cons (Field.put_of hcase ..) <|
    .cons (Field.put_of hnull ..) <| .cons rfl <| .cons rfl <| .cons rfl <|
    .cons (Field.put_of t.regex.read_toData ..) <|
    .cons (Field.put_of t.whereFilter.read_toData ..) <|
    .cons (Field.put_of t.conditional.read_toData ..) <|
    .cons (Field.put_of t.delimiterSplit.read_toData ..) <| .cons rfl <| .nil nofun

theorem Column.read_toData (c : Column) : Value.readRecord shape (.ofData c.toData) = .ok c := by
  have htype := Value.readChoice_of_lookup c.dataType.lookup_name
  by_cases hnotes : c.notes = ""
  · have hc : { c with notes := "" } = c := by rw [← hnotes]
    rw [toData, if_pos hnotes, List.append_nil, ← hc]
    exact Value.Fills.readRecord (by decide) <| .cons rfl <| .cons (Field.put_of htype ..) <|
      .cons rfl <| .cons (Field.put_of c.transformations.read_toData ..) <| .nil (by decide)
  · rw [toData, if_neg hnotes]
    exact Value.Fills.readRecord (by decide) <| .cons rfl <| .cons (Field.put_of htype ..) <|
      .cons rfl <| .cons (Field.put_of c.transformations.read_toData ..) <| .cons rfl <| .nil nofun

theorem Json.Value.readEntries_texts {entries : List (String × String)}
    (h : (entries.map Prod.fst).Nodup) :
    readEntries readText (.ofData (.record (entries.map fun (k, v) => (k, .text v)))) =
      .ok entries := by
  have hmembers : ofDataMembers (entries.map fun (k, v) => (k, Data.text v)) =
      entries.map fun (k, v) => (k, text v) := by
    clear h
    induction entries with
    | nil => rfl
    | cons entry entries ih => exact congrArg (_ :: ·) ih
  have hkeys : ((entries.map fun (k, v) => (k, text v)).map Prod.fst).Nodup := by
    rwa [List.map_map]
  rw [ofData, hmembers, readEntries_of_nodup hkeys, List.mapM_map]
  clear hmembers hkeys h
  induction entries with
  | nil => rfl
  | cons entry entries ih =>
    rw [List.mapM_cons, ih]
    rfl

theorem TableSpec.read_toData {t : TableSpec} (h : (t.notes.map Prod.fst).Nodup) :
    Value.readRecord shape (.ofData t.toData) = .ok t := by
  have hlayer := Value.readChoice_of_lookup t.layer.lookup_name
  have hcolumns := Value.readList_ofList Column.read_toData t.columns
  by_cases hnotes : t.notes = []
  · have ht : { t with notes := [] } = t := by rw [← hnotes]
    rw [toData, if_pos (List.isEmpty_iff.mpr hnotes), List.append_nil, ← ht]
    exact Value.Fills.readRecord (by decide) <| .cons rfl <| .cons (Field.put_of hlayer ..) <|
      .cons (Field.put_of hcolumns ..) <| .nil (by decide)
  · rw [toData, if_neg (mt List.isEmpty_iff.mp hnotes)]
    exact Value.Fills.readRecord (by decide) <| .cons rfl <| .cons (Field.put_of hlayer ..) <|
      .cons (Field.put_of hcolumns ..) <|
      .cons (Field.put_of (Value.readEntries_texts h) ..) <| .nil nofun

namespace Data

theorem fitsItems_iff {items : List Data} : FitsItems items ↔ ∀ item ∈ items, item.Fits := by
  induction items with
  | nil => simp [FitsItems]
  | cons item rest ih => simp [FitsItems, ih]

theorem fitsMembers_iff {members : List (String × Data)} :
    FitsMembers members ↔ ∀ m ∈ members, m.2.Fits := by
  induction members with
  | nil => simp [FitsMembers]
  | cons m rest ih => simp [FitsMembers, ih]

theorem fits_ofList {β : Type} {toData : β → Data} (h : ∀ b, (toData b).Fits) (bs : List β) :
    (ofList toData bs).Fits :=
  fitsItems_iff.mpr (List.forall_mem_map.mpr fun b _ => h b)

end Data

theorem ConditionalCase.fits_toData (c : ConditionalCase) : c.toData.Fits :=
  ⟨trivial, trivial, trivial⟩

theorem ConditionalTransform.fits_toData (c : ConditionalTransform) : c.toData.Fits :=
  ⟨trivial, Data.fits_ofList ConditionalCase.fits_toData c.cases, trivial, trivial⟩

theorem DelimiterSplit.fits_toData (s : DelimiterSplit) : s.toData.Fits :=
  ⟨trivial, trivial, s.index.toNat_lt, trivial⟩

theorem Transformations.fits_toData (t : Transformations) : t.toData.Fits := by
  simp [toData, RegexTransform.toData, WhereFilter.toData, Data.Fits, Data.FitsMembers,
    t.conditional.fits_toData, t.delimiterSplit.fits_toData]

theorem Column.fits_toData (c : Column) : c.toData.Fits := by
  rw [toData, Data.Fits, Data.fitsMembers_iff]
  split_ifs <;> simp [Data.Fits, c.transformations.fits_toData]

theorem TableSpec.fits_toData (t : TableSpec) : t.toData.Fits := by
  have hcolumns := Data.fits_ofList Column.fits_toData t.columns
  have hnotes : Data.FitsMembers (t.notes.map fun note => (note.1, .text note.2)) :=
    Data.fitsMembers_iff.mpr (List.forall_mem_map.mpr fun _ _ => trivial)
  rw [toData, Data.Fits, Data.fitsMembers_iff]
  split_ifs <;> simp [Data.Fits, hcolumns, hnotes]

/-- A table is read back from its text, if its notes are for different columns. -/
theorem TableSpec.ofText_toJson (source : String) (t : TableSpec)
    (h : (t.notes.map Prod.fst).Nodup) : ofText .json source t.toData.toJson = .ok t := by
  rw [ofText_json_eq_ok_iff, Data.meaning_toJson t.fits_toData]
  exact read_toData h

/-- A table with notes, a column that has nothing to be written and one with a long bag. -/
def notedTable : TableSpec where
  name := "a\"b\n"
  layer := .gold
  columns :=
    [{ name := "plain" },
      { name := "full"
        dataType := .json
        nullable := false
        transformations :=
          { nullStrategy := .flag
            conditional := { enabled := true, cases := [{ condition := "x > 1", result := "é" }] }
            delimiterSplit := { enabled := true, delimiter := "\t", index := 18446744073709551615 } }
        notes := "kept" }]
  notes := [("plain", ""), ("other", "\x01")]

theorem TableSpec.ofText_toJson_notedTable :
    (notedTable.notes.map Prod.fst).Nodup ∧
    ofText .json "t.json" notedTable.toData.toJson = .ok notedTable :=
  ⟨by decide, ofText_toJson "t.json" notedTable (by decide)⟩

end CleanSql
