import CleanSql.Document.Dbt
import CleanSql.Proofs.Frame.Tight
import CleanSql.Proofs.Json.RoundTrip
import CleanSql.Proofs.OutputNames

/-!
# Select lists

Both documents of a table select from their source by one list. A value is never blank, and neither
is a flag, so the list is in order as soon as there is something to select
(`TableSpec.isSelectList_iff`). A table without columns has nothing to select, and nothing is said
about it.
-/
namespace CleanSql

theorem Text.not_isBlankText_of_isTightLeft {s : String} (h : isTightLeft s) :
    ¬ isBlankText s := by
  intro hblank
  rw [isTightLeft, Option.any_eq_true] at h
  obtain ⟨c, hc, hne⟩ := h
  have hall := List.all_eq_true.mp hblank c (List.mem_of_mem_head? hc)
  simp [hall] at hne

theorem Profile.isTightLeft_writeNullFlag (p : Profile) (e : String) :
    Text.isTightLeft (p.writeNullFlag e) := by
  unfold writeNullFlag
  split_ifs
  all_goals
    rw [String.append_assoc]
    exact Text.isTightLeft_append (by decide) _

namespace Column

variable (d : Dialect) (c : Column)

theorem isTight_expression : Text.IsTight (c.compile d).expression := by
  unfold compile
  dsimp only
  split_ifs
  · exact c.isTight_value d
  · exact isTight_quoteIdentifier c.name

theorem isTightLeft_flag {flag : Companion} (h : (c.compile d).flag = some flag) :
    Text.isTightLeft flag.expression := by
  unfold compile flag? at h
  dsimp only at h
  split_ifs at h
  · cases h
    exact d.profile.isTightLeft_writeNullFlag _
  · cases h

end Column

namespace Statement

/-- Values with names, at least one, none of the values blank, separated by commas. -/
def IsSelectList (d : Dialect) (text : String) : Prop :=
  ∃ outputs : List (String × String), outputs ≠ [] ∧
    (∀ o ∈ outputs, ¬ Text.isBlankText o.1) ∧
    text = String.intercalate ",\n        "
      (outputs.map fun o => o.1 ++ " AS " ++ d.profile.quoteIdentifier o.2)

variable (s : Statement)

def selectList : String := String.intercalate ",\n        " s.selectItems

def rest : String := s.whereClause.elim "" (fun predicate => "\n    WHERE " ++ predicate) ++ "\n"

theorem cleanedSelect_eq (source : String) : s.cleanedSelect source =
    "    SELECT\n        " ++ s.selectList ++ "\n    FROM " ++ source ++ s.rest := by
  unfold cleanedSelect selectList rest
  exact String.append_assoc

theorem sqlOver_eq (source : String) : s.sqlOver source =
    "WITH cleaned AS (\n" ++ "    SELECT\n        " ++ s.selectList ++ "\n    FROM " ++ source ++
      s.rest ++ ")\nSELECT * FROM cleaned" := by
  unfold sqlOver
  -- What `rw` does at its end would take the texts apart, character by character.
  rewrite [cleanedSelect_eq]
  simp only [String.append_assoc]

theorem named_ne_empty (d : Dialect) (expression name : String) :
    expression ++ " AS " ++ d.profile.quoteIdentifier name ≠ "" := by
  intro hempty
  rw [String.append_eq_empty_iff] at hempty
  exact (isTight_quoteIdentifier name).ne_empty hempty.2

theorem not_isSelectList_empty (d : Dialect) : ¬ IsSelectList d "" := by
  rintro ⟨outputs, hne, -, htext⟩
  obtain ⟨o, outputs, rfl⟩ := List.exists_cons_of_ne_nil hne
  refine named_ne_empty d o.1 o.2 ?_
  cases outputs with
  | nil => rw [htext, List.map_singleton, String.intercalate_singleton]
  | cons next outputs =>
    rw [List.map_cons, List.map_cons, String.intercalate_cons_cons, eq_comm,
      String.append_eq_empty_iff, String.append_eq_empty_iff] at htext
    exact htext.1.1

end Statement

namespace TableSpec

variable (t : TableSpec) (d : Dialect)

/-- No value and no flag is blank. -/
theorem not_isBlankText_outputs : ∀ o ∈ (t.compile d).outputs, ¬ Text.isBlankText o.1 := by
  intro o ho
  obtain ⟨compiled, hcompiled, ho⟩ := List.mem_flatMap.mp ho
  obtain ⟨c, -, rfl⟩ := List.mem_map.mp hcompiled
  obtain rfl | hflag := List.mem_cons.mp ho
  · exact Text.not_isBlankText_of_isTightLeft (c.isTight_expression d).left
  · obtain ⟨flag, hsome, rfl⟩ := Option.map_eq_some_iff.mp (Option.mem_toList.mp hflag)
    exact Text.not_isBlankText_of_isTightLeft (c.isTightLeft_flag d hsome)

theorem outputs_eq_nil_iff : (t.compile d).outputs = [] ↔ t.columns = [] := by
  constructor
  · intro h
    by_contra hne
    obtain ⟨c, cs, hcs⟩ := List.exists_cons_of_ne_nil hne
    rw [Statement.outputs, compile, hcs] at h
    cases h
  · intro h
    rw [Statement.outputs, compile, h]
    rfl

theorem isSelectList_selectList :
    Statement.IsSelectList d (t.compile d).selectList ↔ t.columns ≠ [] := by
  constructor
  · intro h hnil
    have hempty : (t.compile d).selectList = "" := by
      rw [Statement.selectList, Statement.selectItems_eq, (t.outputs_eq_nil_iff d).mpr hnil]
      rfl
    exact Statement.not_isSelectList_empty d (hempty ▸ h)
  · intro hne
    refine ⟨_, mt (t.outputs_eq_nil_iff d).mp hne, t.not_isBlankText_outputs d, ?_⟩
    rw [Statement.selectList, Statement.selectItems_eq]
    rfl

/-- Both documents of a table select from their source by the same list, and it is in order exactly
if the table has columns. If it has none, nothing is said. -/
theorem isSelectList_iff (catalog : Option String) :
    t.sql (t.compile d) catalog =
        "WITH cleaned AS (\n" ++ "    SELECT\n        " ++ (t.compile d).selectList ++
          "\n    FROM " ++ t.relation d catalog ++ (t.compile d).rest ++
          ")\nSELECT * FROM cleaned" ∧
      DbtModel.model t (t.compile d) =
        "WITH source AS (\n    SELECT * FROM " ++ DbtModel.sourceCall t ++
          "\n),\ncleaned AS (\n" ++ "    SELECT\n        " ++ (t.compile d).selectList ++
          "\n    FROM " ++ "source" ++ (t.compile d).rest ++ ")\nSELECT * FROM cleaned" ∧
      (Statement.IsSelectList d (t.compile d).selectList ↔ t.columns ≠ []) ∧
      (t.columns = [] → (t.compile d).allDiagnostics = []) := by
  refine ⟨?_, ?_, t.isSelectList_selectList d, fun hnil => ?_⟩
  · exact Statement.sqlOver_eq _ _
  · unfold DbtModel.model
    rewrite [Statement.cleanedSelect_eq]
    simp only [String.append_assoc]
  · simp [compile, hnil, Statement.allDiagnostics, Statement.repeated]

def emptyDocument : Data := .record [("name", .text "t"), ("columns", .list [])]

theorem not_forall_isSelectList :
    ¬ ∀ (format : TableFormat) (source text : String) (t : TableSpec) (d : Dialect),
      ofText format source text = .ok t → (t.compile d).allDiagnostics = [] →
        Statement.IsSelectList d (t.compile d).selectList := by
  intro hall
  have hread : ofText .json "a" emptyDocument.toJson = .ok { name := "t", columns := [] } := by
    rw [ofText_json_eq_ok_iff, Data.meaning_toJson
      (by simp [emptyDocument, Data.Fits, Data.FitsItems, Data.FitsMembers])]
    rfl
  have hlist := hall _ _ _ _ .ansi hread rfl
  exact (isSelectList_selectList _ .ansi).mp hlist rfl

end TableSpec

end CleanSql
