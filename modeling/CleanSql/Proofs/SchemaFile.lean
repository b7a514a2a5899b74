import CleanSql.Proofs.Value.NotNull

/-!
# Schema files

A schema file and a query are written from different lists: that of the declared columns beside the
compiled ones, and that of the compiled ones alone. Both have the same names in the same order: each
column followed by its flag, which only a column in order has. The entries are read from the
document that the file is the text of.
-/
namespace CleanSql

namespace Data

def member? (key : String) : Data → Option Data
  | record members => members.lookup key
  | _ => none

def items : Data → List Data
  | list items => items
  | _ => []

def text? : Data → Option String
  | text value => some value
  | _ => none

/-- The items of the list that a member of a record is. -/
def memberItems (key : String) (d : Data) : List Data := (d.member? key).elim [] items

end Data

namespace DbtModel

/-- The entries for columns in a schema file, over all of its models. -/
def entries (schema : Data) : List Data :=
  (schema.memberItems "models").flatMap (Data.memberItems "columns")

def entryName? (entry : Data) : Option String := (entry.member? "name").bind Data.text?

def HasNotNullTest (entry : Data) : Prop :=
  some "not_null" ∈ (entry.memberItems "tests").map Data.text?

instance (entry : Data) : Decidable (HasNotNullTest entry) :=
  inferInstanceAs (Decidable (_ ∈ _))

end DbtModel

namespace ColumnDoc

variable (doc : ColumnDoc)

theorem entryName?_toData : DbtModel.entryName? doc.toData = some doc.name := rfl

theorem hasNotNullTest_toData : DbtModel.HasNotNullTest doc.toData ↔ doc.notNull := by
  have htests : doc.toData.memberItems "tests" =
      if doc.notNull then [.text "not_null"] else [] := by
    rw [Data.memberItems, toData, Data.member?]
    cases doc.description <;> cases doc.notNull <;> rfl
  rw [DbtModel.HasNotNullTest, htests]
  cases doc.notNull <;> decide

end ColumnDoc

namespace Column

/-- The column is in order and has a flag beside it. -/
def IsFlagged (c : Column) : Prop :=
  (¬ ∃ m, c.transformations.Violates m) ∧ c.transformations.nullStrategy = .flag

instance (c : Column) : Decidable c.IsFlagged := inferInstanceAs (Decidable (_ ∧ _))

variable (d : Dialect) (c : Column)

theorem map_name_flag_compile : (c.compile d).flag.map (·.name) =
    if c.IsFlagged then some (flagName c.name) else none := by
  by_cases hsound : ∃ m, c.transformations.Violates m
  · have hdegraded := compile_of_malformed d (Transformations.exists_violates_iff.mp hsound)
    rw [hdegraded, if_neg fun h => h.1 hsound]
    rfl
  · rw [compile_of_sound d (Transformations.not_violates_iff.mp hsound), flag?]
    by_cases hflag : c.transformations.nullStrategy = .flag
    · rw [if_pos hflag, if_pos ⟨hsound, hflag⟩]
      rfl
    · rw [if_neg hflag, if_neg fun h => hflag h.2]
      rfl

def outputNames : List String := c.name :: if c.IsFlagged then [flagName c.name] else []

theorem outputNames_compile :
    c.name :: ((c.compile d).flag.map (·.name)).toList = c.outputNames := by
  rw [map_name_flag_compile, outputNames]
  split_ifs <;> rfl

end Column

namespace TableSpec

variable (d : Dialect) (t : TableSpec)

theorem aliases_compile : (t.compile d).aliases = t.columns.flatMap Column.outputNames := by
  rw [Statement.aliases, Statement.outputs, List.map_flatMap, compile, List.flatMap_map]
  refine List.flatMap_congr fun c _ => ?_
  rw [← c.outputNames_compile d, List.map_cons, c.name_compile]
  cases (c.compile d).flag <;> rfl

end TableSpec

namespace DbtModel

variable (d : Dialect) (t : TableSpec)

theorem entries_schema (s : Statement) :
    entries (schema t s) = (schemaColumns t s).map ColumnDoc.toData :=
  List.append_nil _

theorem map_columnDocs (c : Column) :
    (columnDocs t c (c.compile d)).map
        (fun doc => (entryName? doc.toData, decide (HasNotNullTest doc.toData))) =
      (some c.name, decide c.IsNotNull) ::
        if c.IsFlagged then [(some (flagName c.name), true)] else [] := by
  have hflag : ((c.compile d).flag.map (·.name)).toList.map (fun name => (some name, true)) =
      if c.IsFlagged then [(some (flagName c.name), true)] else [] := by
    rw [c.map_name_flag_compile]
    split_ifs <;> rfl
  have hown : (!c.nullable || isFilled c (c.compile d)) = decide c.IsNotNull := by
    rw [Bool.eq_iff_iff, decide_eq_true_iff]
    exact notNull_iff
  simp only [ColumnDoc.entryName?_toData, ColumnDoc.hasNotNullTest_toData, Bool.decide_eq_true]
  rw [columnDocs, List.map_cons, hown, ← hflag]
  cases (c.compile d).flag <;> rfl

/-- A schema file and the query of its table have the same columns: each declared one in its place,
which the projection has, too, and behind it its flag if it is in order and missing values are to be
flagged. A declared column is tested for missing values exactly if it is declared without any, or is
in order and drops or replaces them. A flag is always tested. -/
theorem entries_agree_with_query :
    (of t (t.compile d)).schemaYml = (schema t (t.compile d)).toYaml ∧
    (t.compile d).projection = t.columns.map (Column.compile d) ∧
    (t.compile d).projection.map (·.name) = t.declared ∧
    (t.compile d).selectItems =
      (t.compile d).outputs.map (fun o => o.1 ++ " AS " ++ d.profile.quoteIdentifier o.2) ∧
    (t.compile d).aliases = t.columns.flatMap (fun c =>
      c.name :: if c.IsFlagged then [flagName c.name] else []) ∧
    (entries (schema t (t.compile d))).map entryName? = (t.compile d).aliases.map some ∧
    (entries (schema t (t.compile d))).map
        (fun entry => (entryName? entry, decide (HasNotNullTest entry))) =
      t.columns.flatMap fun c => (some c.name, decide c.IsNotNull) ::
        if c.IsFlagged then [(some (flagName c.name), true)] else [] := by
  have hread : (entries (schema t (t.compile d))).map
        (fun entry => (entryName? entry, decide (HasNotNullTest entry))) =
      t.columns.flatMap fun c => (some c.name, decide c.IsNotNull) ::
        if c.IsFlagged then [(some (flagName c.name), true)] else [] := by
    rw [entries_schema, schemaColumns_compile, List.map_map, List.map_flatMap]
    exact List.flatMap_congr fun c _ => map_columnDocs d t c
  refine ⟨rfl, rfl, t.map_name_projection d, Statement.selectItems_eq _, t.aliases_compile d, ?_,
    hread⟩
  have hnames := congrArg (List.map Prod.fst) hread
  rw [List.map_map, List.map_flatMap] at hnames
  rw [t.aliases_compile d, List.map_flatMap]
  refine hnames.trans (List.flatMap_congr fun c _ => ?_)
  rw [Column.outputNames]
  split_ifs <;> rfl

end DbtModel

end CleanSql
