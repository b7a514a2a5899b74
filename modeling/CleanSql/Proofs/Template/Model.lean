import CleanSql.Document.Dbt
import CleanSql.Proofs.Template.Column

/-!
# Template code in dbt models

A model goes through the template language before it is a query. The names and texts of its columns
are quoted for SQL and not for templates, so that where one of them that is written opens template
code, the model does (`DbtModel.inert_afterName_iff`). Only the name of the table is written in a
string of the template language.
-/
namespace CleanSql

open Template

namespace Statement

theorem openings_cleanedSelect (s : Statement) :
    openings (s.cleanedSelect "source") =
      (s.selectItems.map openings).sum + s.whereClause.elim 0 openings := by
  have hwhere : openings (s.whereClause.elim "" fun predicate => "\n    WHERE " ++ predicate) =
      s.whereClause.elim 0 openings := by
    cases s.whereClause with
    | none => rfl
    | some predicate =>
      rw [Option.elim_some, Option.elim_some, openings_append_of_left (by decide)]
  have hfrom : isInertText ("\n    FROM " ++ "source") := by decide
  unfold cleanedSelect
  rw [openings_append_of_right (by decide), @String.append_assoc _ "\n    FROM ",
    openings_between hfrom (by decide), openings_append_of_left (by decide),
    openings_intercalate (by decide) (by decide), hwhere]

end Statement

theorem openings_conjoin (predicates : List String) :
    (conjoin? (predicates.map inParens)).elim 0 openings = (predicates.map openings).sum := by
  by_cases h : predicates = []
  · rw [h]
    rfl
  · have hne : predicates.map inParens ≠ [] := by simpa using h
    rw [conjoin?_of_ne_nil hne, Option.elim_some, openings_intercalate (by decide) (by decide),
      List.map_map]
    refine congrArg List.sum (List.map_congr_left fun sql _ => ?_)
    rw [Function.comp_apply, inParens, openings_append_of_right (by decide),
      openings_append_of_left (by decide)]

namespace DbtModel

def beforeName (t : TableSpec) : String :=
  "WITH source AS (\n    SELECT * FROM " ++ ("\x7b\x7b source(" ++ quoteTemplate t.layer.name ++ ", ")

def afterName (s : Statement) : String :=
  ") \x7d\x7d" ++ "\n),\ncleaned AS (\n" ++ s.cleanedSelect "source" ++ ")\nSELECT * FROM cleaned"

theorem model_eq (t : TableSpec) (s : Statement) :
    model t s = beforeName t ++ quoteTemplate t.name ++ afterName s := by
  unfold model sourceCall beforeName afterName
  simp only [String.append_assoc]

theorem openings_beforeName (t : TableSpec) : openings (beforeName t) = 1 := by
  unfold beforeName
  have hopening : isInertText "WITH source AS (\n    SELECT * FROM " := by decide
  have hclosing : isInertText ", " := by decide
  rw [openings_append_of_left hopening, openings_append_of_right hclosing]
  cases t.layer <;> decide

theorem inert_afterName_iff (d : Dialect) {t : TableSpec} (h : ∀ c ∈ t.columns, c.Literal) :
    Inert (afterName (t.compile d)) ↔
      ∀ c ∈ t.columns, ∀ text ∈ c.writtenTexts d, Inert text := by
  have hitems : ((t.compile d).selectItems.map openings).sum = 0 ↔
      ∀ c ∈ t.columns, ∀ item ∈ Statement.columnItems d (c.compile d), Inert item := by
    rw [List.sum_eq_zero_iff_forall_eq_nat, List.forall_mem_map, Statement.selectItems,
      List.forall_mem_flatMap, TableSpec.compile, List.forall_mem_map]
    rfl
  have hpredicates (hnames : ∀ c ∈ t.columns, Inert c.name) :
      ((t.rowPredicates d).map openings).sum = 0 := by
    rw [List.sum_eq_zero_iff_forall_eq_nat, List.forall_mem_map, TableSpec.rowPredicates,
      List.forall_mem_flatMap]
    exact fun c hc => Column.inert_rowPredicates (h c hc) (hnames c hc)
  have hcolumns : (∀ c ∈ t.columns, ∀ item ∈ Statement.columnItems d (c.compile d), Inert item) ↔
      ∀ c ∈ t.columns, ∀ text ∈ c.writtenTexts d, Inert text :=
    forall₂_congr fun c hc => Column.inert_columnItems_iff (h c hc)
  have hopening : isInertText (") \x7d\x7d" ++ "\n),\ncleaned AS (\n") := by decide
  have hclosing : isInertText ")\nSELECT * FROM cleaned" := by decide
  unfold Inert afterName
  rw [openings_append_of_right hclosing, openings_append_of_left hopening,
    Statement.openings_cleanedSelect, TableSpec.whereClause_compile, openings_conjoin,
    Nat.add_eq_zero_iff, hitems, hcolumns]
  exact and_iff_left_of_imp fun htexts =>
    hpredicates fun c hc => htexts c hc c.name List.mem_cons_self

/-- Up to the name of its table a model opens template code once, by the call that looks the table
up. Behind that name it opens none exactly if no name of a column and no text that is written for
one does. -/
theorem openings_model_iff (d : Dialect) (t : TableSpec) (h : ∀ c ∈ t.columns, c.Literal) :
    model t (t.compile d) = beforeName t ++ quoteTemplate t.name ++ afterName (t.compile d) ∧
    openings (beforeName t) = 1 ∧
    (openings (afterName (t.compile d)) = 0 ↔
      ∀ c ∈ t.columns, ∀ text ∈ c.writtenTexts d, Inert text) :=
  ⟨model_eq t _, openings_beforeName t, inert_afterName_iff d h⟩

/-- A table whose one column is given a text with an expression of the template language. -/
def expressionTable : TableSpec where
  name := "t"
  columns :=
    [{ name := "c"
       transformations :=
         { conditional :=
             { enabled := true
               cases := [{ condition := "c > 0", result := "\x7b\x7b x \x7d\x7d" }]
               otherwise := "y" } } }]

theorem literal_expressionTable : ∀ c ∈ expressionTable.columns, c.Literal := by
  intro c hc
  rw [List.mem_singleton.mp hc]
  exact ⟨by decide, by decide, by decide⟩

theorem openings_model_expressionTable :
    (∀ c ∈ expressionTable.columns, c.Literal) ∧
    (openings (afterName (expressionTable.compile .bigquery)) = 0 ↔
      ∀ c ∈ expressionTable.columns, ∀ text ∈ c.writtenTexts .bigquery, Inert text) :=
  ⟨literal_expressionTable,
    (openings_model_iff .bigquery expressionTable literal_expressionTable).2.2⟩

/-- Texts that are to be written as they stand can open template code. -/
theorem not_openings_eq_one : ¬ ∀ (d : Dialect) (t : TableSpec), (∀ c ∈ t.columns, c.Literal) →
    openings (beforeName t) + openings (afterName (t.compile d)) = 1 := by
  intro h
  have hone := h .bigquery expressionTable literal_expressionTable
  rw [openings_beforeName] at hone
  have hinert := (inert_afterName_iff .bigquery literal_expressionTable).mp (by
    unfold Inert
    omega)
  have htext := hinert _ List.mem_cons_self "\x7b\x7b x \x7d\x7d" (by decide)
  exact absurd htext (by decide)

end DbtModel

end CleanSql
