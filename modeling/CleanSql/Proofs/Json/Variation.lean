import Mathlib.Logic.Relation
import CleanSql.Proofs.Json.Object
import CleanSql.Proofs.Json.Printing
import CleanSql.Statement

/-!
# Documents with the same meaning

In a table document the members of an object may stand in any order, unknown ones may be added, and
one that has the documented default may be left out, in the object of the table or in any inside of
it (`Step`). The table that is read stays the same, but for the order of its notes.
-/
namespace CleanSql

/-- Two tables are the same, their notes as a map. -/
structure TableSpec.Same (t t' : TableSpec) : Prop where
  name : t.name = t'.name
  layer : t.layer = t'.layer
  columns : t.columns = t'.columns
  notes : t.notes.Perm t'.notes

namespace TableSpec.Same

theorem refl (t : TableSpec) : t.Same t := ⟨rfl, rfl, rfl, .refl _⟩

theorem trans {t t' t'' : TableSpec} (h : t.Same t') (h' : t'.Same t'') : t.Same t'' :=
  ⟨h.name.trans h'.name, h.layer.trans h'.layer, h.columns.trans h'.columns, h.notes.trans h'.notes⟩

theorem compile_eq {t t' : TableSpec} (h : t.Same t') (d : Dialect) :
    t.compile d = t'.compile d := by
  simp only [TableSpec.compile, h.name, h.columns]

end TableSpec.Same

namespace Json

/-- The kinds of records in a table document. -/
inductive RecordKind where
  | table | column | transformations | regex | whereFilter | conditional | case | split
  deriving DecidableEq, Repr

/-- What stands in a place of a table document. -/
inductive Form where
  /-- A text, a number, a truth value or one of several names. -/
  | leaf
  | record (kind : RecordKind)
  | list (kind : RecordKind)
  /-- A map from names to texts. -/
  | notes
  deriving DecidableEq, Repr

namespace RecordKind

abbrev Record : RecordKind → Type
  | table => TableSpec
  | column => Column
  | transformations => Transformations
  | regex => RegexTransform
  | whereFilter => WhereFilter
  | conditional => ConditionalTransform
  | case => ConditionalCase
  | split => DelimiterSplit

def shape : (k : RecordKind) → RecordShape Value Unit k.Record
  | table => TableSpec.shape
  | column => Column.shape
  | transformations => Transformations.shape
  | regex => RegexTransform.shape
  | whereFilter => WhereFilter.shape
  | conditional => ConditionalTransform.shape
  | case => ConditionalCase.shape
  | split => DelimiterSplit.shape

def form : RecordKind → String → Form
  | table, "columns" => .list column
  | table, "notes" => .notes
  | column, "transformations" => .record transformations
  | transformations, "regex" => .record regex
  | transformations, "where_filter" => .record whereFilter
  | transformations, "conditional" => .record conditional
  | transformations, "delimiter_split" => .record split
  | conditional, "cases" => .list case
  | _, _ => .leaf

def default? : RecordKind → String → Option Value
  | table, "layer" => some (.text "bronze")
  | table, "notes" => some (.record [])
  | column, "data_type" => some (.text "string")
  | column, "nullable" => some (.bool true)
  | column, "transformations" => some (.record [])
  | column, "notes" => some (.text "")
  | transformations, "trim" => some (.bool false)
  | transformations, "case_normalization" => some (.text "none")
  | transformations, "null_strategy" => some (.text "none")
  | transformations, "null_replacement" => some (.text "")
  | transformations, "type_cast" => some (.text "")
  | transformations, "strip_special_chars" => some (.bool false)
  | transformations, "regex" => some (.record [])
  | transformations, "where_filter" => some (.record [])
  | transformations, "conditional" => some (.record [])
  | transformations, "delimiter_split" => some (.record [])
  | transformations, "custom_expression" => some (.text "")
  | regex, "enabled" => some (.bool false)
  | regex, "pattern" => some (.text "")
  | regex, "replacement" => some (.text "")
  | whereFilter, "enabled" => some (.bool false)
  | whereFilter, "condition" => some (.text "")
  | conditional, "enabled" => some (.bool false)
  | conditional, "cases" => some (.list [])
  | conditional, "else_value" => some (.text "")
  | case, "when" => some (.text "")
  | case, "then" => some (.text "")
  | split, "enabled" => some (.bool false)
  | split, "delimiter" => some (.text ",")
  | split, "index" => some (.number (.natural 0))
  | _, _ => none

theorem independent (k : RecordKind) : k.shape.Independent := by
  cases k
  all_goals
    refine ⟨by decide, ?_⟩
    -- Any two fields set different parts of a record.
    repeat' first
      | exact List.Pairwise.nil
      | refine List.pairwise_cons.mpr ⟨?_, ?_⟩
      | exact List.forall_mem_nil _
      | refine List.forall_mem_cons.mpr ⟨?_, ?_⟩
      | exact Field.Commute.of fun _ _ _ => rfl

theorem default?_spec {k : RecordKind} {key : String} {v : Value} (h : k.default? key = some v) :
    ∃ f, k.shape.field? key = some f ∧ f.required = false ∧
      f.put v k.shape.initial = .ok k.shape.initial := by
  unfold default? at h
  split at h
  all_goals first
    | cases h; done
    | (cases h; exact ⟨_, rfl, rfl, rfl⟩)

/-- All but the required fields have a documented default. -/
theorem isSome_default?_iff (k : RecordKind) :
    ∀ f ∈ k.shape.fields, (k.default? f.name).isSome ↔ f.required = false := by
  cases k <;> decide

/-- Two records are the same but for the order of the notes of a table. -/
def Same : (k : RecordKind) → k.Record → k.Record → Prop
  | table => TableSpec.Same
  | column | transformations | regex | whereFilter | conditional | case | split => Eq

theorem same_refl (k : RecordKind) (a : k.Record) : k.Same a a := by
  cases k with
  | table => exact .refl a
  | _ => rfl

theorem same_trans (k : RecordKind) (a b c : k.Record) (h : k.Same a b) (h' : k.Same b c) :
    k.Same a c := by
  cases k with
  | table => exact TableSpec.Same.trans h h'
  | _ => exact Eq.trans h h'

theorem respects_same (k : RecordKind) : ∀ f ∈ k.shape.fields, f.Respects k.Same := by
  have heq {R : Type} (f : Field Value Unit R) : f.Respects Eq := by
    rintro v a _ rfl
    exact .refl (fun _ => rfl) _
  cases k with
  | table =>
    refine List.forall_mem_cons.mpr ⟨.of fun _ _ _ h => ⟨rfl, h.layer, h.columns, h.notes⟩, ?_⟩
    refine List.forall_mem_cons.mpr ⟨.of fun _ _ _ h => ⟨h.name, rfl, h.columns, h.notes⟩, ?_⟩
    refine List.forall_mem_cons.mpr ⟨.of fun _ _ _ h => ⟨h.name, h.layer, rfl, h.notes⟩, ?_⟩
    exact List.forall_mem_singleton.mpr (.of fun _ _ _ h => ⟨h.name, h.layer, h.columns, .refl _⟩)
  | _ => exact fun f _ => heq f

/-- Two values behind a key are put into a record alike. -/
def PutAlike (k : RecordKind) (key : String) (v w : Value) : Prop :=
  ∀ f, k.shape.field? key = some f → ∀ a, f.put v a = f.put w a

end RecordKind

/-- One change that a document keeps its meaning under, in a place of the given form. -/
inductive Step : Form → Value → Value → Prop
  | permute {k : RecordKind} {members members' : List (String × Value)}
      (h : members.Perm members') : Step (.record k) (.record members) (.record members')
  | addUnknown {k : RecordKind} {members : List (String × Value)} {key : String} {value : Value}
      (hkey : key ∉ k.shape.fieldNames) (hvalue : value.isWhole) :
      Step (.record k) (.record members) (.record ((key, value) :: members))
  | omitDefault {k : RecordKind} {members : List (String × Value)} {key : String}
      {value documented : Value} (hkey : k.default? key = some documented)
      (hvalue : k.PutAlike key value documented) :
      Step (.record k) (.record ((key, value) :: members)) (.record members)
  | member {k : RecordKind} (before after : List (String × Value)) {key : String}
      {value value' : Value} (h : Step (k.form key) value value') :
      Step (.record k) (.record (before ++ (key, value) :: after))
        (.record (before ++ (key, value') :: after))
  /-- A record may be written as a row of what its fields say. -/
  | cell {k : RecordKind} (before after : List Value) {name : String} {value value' : Value}
      (hname : k.shape.fieldNames[before.length]? = some name)
      (h : Step (k.form name) value value') :
      Step (.record k) (.list (before ++ value :: after)) (.list (before ++ value' :: after))
  | item {k : RecordKind} (before after : List Value) {value value' : Value}
      (h : Step (.record k) value value') :
      Step (.list k) (.list (before ++ value :: after)) (.list (before ++ value' :: after))
  | notes {members members' : List (String × Value)} (hkeys : (members.map Prod.fst).Nodup)
      (h : members.Perm members') : Step .notes (.record members) (.record members')

def Form.Kept : Form → Value → Value → Prop
  | leaf, _, _ => False
  | record k, v, v' => Leads k.Same (Value.readRecord k.shape v) (Value.readRecord k.shape v')
  | list k, v, v' =>
    Leads (List.Forall₂ k.Same) (Value.readList (Value.readRecord k.shape) v)
      (Value.readList (Value.readRecord k.shape) v')
  | notes, v, v' =>
    Leads List.Perm (Value.readEntries Value.readText v) (Value.readEntries Value.readText v')

/-- What is put into a record is kept with what is read behind the key. -/
theorem RecordKind.exists_leads_put {k : RecordKind} {key : String} {v v' : Value}
    (h : (k.form key).Kept v v') :
    ∃ f, k.shape.field? key = some f ∧ ∀ a, Leads k.Same (f.put v a) (f.put v' a) := by
  have hlist {R : Type} {x y : Except Unit (List R)} (hxy : Leads (List.Forall₂ Eq) x y) :
      Leads Eq x y := by
    rwa [List.forall₂_eq_eq_eq] at hxy
  unfold form at h
  split at h
  · exact ⟨_, rfl, fun a => (hlist h).map fun cs cs' hcs => ⟨rfl, rfl, hcs, .refl _⟩⟩
  · exact ⟨_, rfl, fun a => h.map fun ns ns' hns => ⟨rfl, rfl, rfl, hns⟩⟩
  · exact ⟨_, rfl, fun a => Leads.map_of_eq column.same_refl h _⟩
  · exact ⟨_, rfl, fun a => Leads.map_of_eq transformations.same_refl h _⟩
  · exact ⟨_, rfl, fun a => Leads.map_of_eq transformations.same_refl h _⟩
  · exact ⟨_, rfl, fun a => Leads.map_of_eq transformations.same_refl h _⟩
  · exact ⟨_, rfl, fun a => Leads.map_of_eq transformations.same_refl h _⟩
  · exact ⟨_, rfl, fun a => Leads.map_of_eq conditional.same_refl (hlist h) _⟩
  · exact h.elim

/-- One change keeps what is read. -/
theorem Step.kept {form : Form} {v v' : Value} (h : Step form v v') : form.Kept v v' := by
  induction h with
  | @permute k members members' h =>
    rw [Form.Kept, Value.readRecord_perm k.independent h]
    exact .refl k.same_refl _
  | @addUnknown k members key value hkey hvalue =>
    have hunknown : k.shape.field? key = none := by
      rw [RecordShape.field?, List.find?_eq_none]
      intro f hf hname
      exact hkey (List.mem_map.mpr ⟨f, hf, of_decide_eq_true hname⟩)
    rw [Form.Kept, Value.readRecord_cons_of_unknown hunknown hvalue]
    exact .refl k.same_refl _
  | @omitDefault k members key value documented hkey hvalue =>
    obtain ⟨f, hf, hrequired, hput⟩ := RecordKind.default?_spec hkey
    exact Value.leads_readRecord_of_cons k.same_refl k.independent hf hrequired
      ((hvalue f hf _).trans hput)
  | @member k before after key value value' _ ih =>
    obtain ⟨f, hf, hput⟩ := RecordKind.exists_leads_put ih
    exact Value.leads_readRecord_of_member k.independent k.respects_same hf hput before after
  | @cell k before after name value value' hname _ ih =>
    obtain ⟨f, hf, rfl⟩ : ∃ f, k.shape.fields[before.length]? = some f ∧ f.name = name := by
      rwa [RecordShape.fieldNames, List.getElem?_map, Option.map_eq_some_iff] at hname
    obtain ⟨g, hg, hput⟩ := RecordKind.exists_leads_put ih
    have hname := RecordShape.field?_name k.independent.nodup (List.mem_of_getElem? hf)
    obtain rfl : f = g := Option.some.inj (hname.symm.trans hg)
    exact Value.leads_readRecord_of_item k.respects_same after hf hput
  | @item k before after value value' _ ih =>
    exact Value.leads_readList_of_item k.same_refl ih before after
  | notes hkeys h => exact Value.leads_readEntries_of_perm hkeys h

/-- Any number of changes to a table document. -/
def Variation : Value → Value → Prop := Relation.ReflTransGen (Step (.record .table))

/-- Changes keep the table that is decoded. -/
theorem Variation.kept {v v' : Value} (h : Variation v v') :
    Leads TableSpec.Same (TableSpec.decode v) (TableSpec.decode v') := by
  induction h with
  | refl => exact .refl TableSpec.Same.refl _
  | tail _ hstep ih => exact Leads.trans RecordKind.table.same_trans ih hstep.kept

end Json

open Json in
/-- A document that is read stays readable under any number of changes that keep its meaning, at any
depth: members in another order, further ones with unknown keys, and ones left out that say the
documented default. The table is the same, its notes as a map, and so is its statement in every
dialect. -/
theorem TableSpec.ofText_variation {source source' text text' : String} {t : TableSpec}
    (hvariation : Variation (meaning text) (meaning text'))
    (h : ofText .json source text = .ok t) :
    ∃ t', ofText .json source' text' = .ok t' ∧ t.Same t' ∧ ∀ d, t'.compile d = t.compile d := by
  rw [ofText_json_eq_ok_iff] at h
  obtain ⟨t', ht', hsame⟩ := hvariation.kept t h
  exact ⟨t', ofText_json_eq_ok_iff.mpr ht', hsame, fun d => (hsame.compile_eq d).symm⟩

def fullDocument : Data :=
  .record [("name", .text "t"), ("columns", .list [.record [("name", .text "c"),
    ("transformations", .record [("regex", .record []), ("trim", .bool true)])]])]

/-- The same table in another order, with a key that is not known. -/
def variedDocument : Data :=
  .record [("columns", .list [.record [("unit", .null), ("name", .text "c"),
    ("transformations", .record [("trim", .bool true)])]]), ("name", .text "t")]

open Json in
theorem variation_variedDocument :
    Variation (meaning fullDocument.toJson) (meaning variedDocument.toJson) := by
  have hfull : fullDocument.Fits := by
    simp [fullDocument, Data.Fits, Data.FitsItems, Data.FitsMembers]
  have hvaried : variedDocument.Fits := by
    simp [variedDocument, Data.Fits, Data.FitsItems, Data.FitsMembers]
  rw [Data.meaning_toJson hfull, Data.meaning_toJson hvaried]
  have horder := Step.permute (k := .table) (List.Perm.swap
    ("columns", Value.list [.record [("name", .text "c"),
      ("transformations", .record [("regex", .record []), ("trim", .bool true)])]])
    ("name", Value.text "t") [])
  have hcolumn {v w : Value} (h : Step (.record .column) v w) : Step (.record .table)
      (.record [("columns", .list [v]), ("name", .text "t")])
      (.record [("columns", .list [w]), ("name", .text "t")]) :=
    .member [] [("name", .text "t")] (.item [] [] h)
  have hdefault : Step (.record .column)
      (.record [("name", .text "c"),
        ("transformations", .record [("regex", .record []), ("trim", .bool true)])])
      (.record [("name", .text "c"), ("transformations", .record [("trim", .bool true)])]) :=
    .member [("name", .text "c")] [] (.omitDefault rfl fun _ _ _ => rfl)
  have hunknown : Step (.record .column)
      (.record [("name", .text "c"), ("transformations", .record [("trim", .bool true)])])
      (.record [("unit", .null), ("name", .text "c"),
        ("transformations", .record [("trim", .bool true)])]) :=
    .addUnknown (by decide) rfl
  exact .head horder (.head (hcolumn hdefault) (.single (hcolumn hunknown)))

theorem TableSpec.ofText_variation_variedDocument :
    Json.Variation (Json.meaning fullDocument.toJson) (Json.meaning variedDocument.toJson) ∧
    ∃ t, ofText .json "a" fullDocument.toJson = .ok t ∧
      ∃ t', ofText .json "b" variedDocument.toJson = .ok t' ∧ t.Same t' ∧
        ∀ d, t'.compile d = t.compile d := by
  have hread : ofText .json "a" fullDocument.toJson = .ok
      { name := "t", columns := [{ name := "c", transformations := { trim := true } }] } := by
    rw [ofText_json_eq_ok_iff, Data.meaning_toJson
      (by simp [fullDocument, Data.Fits, Data.FitsItems, Data.FitsMembers])]
    rfl
  exact ⟨variation_variedDocument, _, hread, ofText_variation variation_variedDocument hread⟩

end CleanSql
