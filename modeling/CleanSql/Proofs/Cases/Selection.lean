import CleanSql.Proofs.Cases.Reading
import CleanSql.Proofs.Predicate.Formula
import CleanSql.Proofs.RowFilter

/-!
# The case that is chosen

A case distinction that is read back chooses the result of its first condition that is true. Where
none is, neither false nor unknown conditions count, and what stands for all other cases is left:
of a column the declared text, or its value without its cases (`Lexis.readCases_chooses`).
-/
namespace CleanSql

open Predicate (Truth)

namespace CaseText

/-- The value of a case distinction, where its conditions have truth values, results are valued as
texts and what stands for all other cases as SQL. -/
def value {α : Type} (truth : String → Truth) (text sql : String → α) (c : CaseText) : α :=
  (c.branches.find? fun b => truth b.1 = some true).elim (sql c.otherwise) fun b => text b.2

variable {α : Type} {truth : String → Truth} {text sql : String → α} {c : CaseText}

/-- Cases behind the first that is true do not count. -/
theorem value_of_first {before after : List (String × String)} {b : String × String}
    (h : c.branches = before ++ b :: after) (hbefore : ∀ x ∈ before, truth x.1 ≠ some true)
    (hb : truth b.1 = some true) : c.value truth text sql = text b.2 := by
  have hnone : (before.find? fun x => truth x.1 = some true) = none := by
    rw [List.find?_eq_none]
    intro x hx
    simpa using hbefore x hx
  rw [value, h, List.find?_append, hnone, Option.none_or,
    List.find?_cons_of_pos (by simpa using hb), Option.elim_some]

theorem value_of_none (h : ∀ b ∈ c.branches, truth b.1 ≠ some true) :
    c.value truth text sql = sql c.otherwise := by
  have hnone : (c.branches.find? fun x => truth x.1 = some true) = none := by
    rw [List.find?_eq_none]
    intro x hx
    simpa using h x hx
  rw [value, hnone, Option.elim_none]

end CaseText

namespace ScanState

variable {p : Profile} {c : Char}

theorem next_blank (h : Text.isBlank c) : next p {} c = {} :=
  next_of_step (step_of_isPlain (isPlain_of_kind (by decide) h) 0)

theorem isOuter_next_blank (s : ScanState) (h : Text.isBlank c) :
    ((next p s c).mode.isOutside && (next p s c).depth == 0) =
      (s.mode.isOutside && s.depth == 0) := by
  have hplain : isPlain c := isPlain_of_kind (k := Text.isBlank) (by decide) h
  have hback : c ≠ '\\' := by
    rintro rfl
    cases h
  simp only [isPlain, marks, List.contains_cons, List.contains_nil, Bool.or_false,
    Bool.not_eq_true', Bool.or_eq_false_iff, beq_eq_false_iff_ne] at hplain
  have hopening : c ≠ p.identifierQuote.opening := by
    cases p.identifierQuote <;> simp [IdentifierQuote.opening, hplain]
  have hclosing : c ≠ p.identifierQuote.closing := by
    cases p.identifierQuote <;> simp [IdentifierQuote.closing, hplain]
  obtain ⟨mode, depth⟩ := s
  cases mode <;>
    simp [next, step, LexMode.step, LexMode.enter, LexMode.isOutside, turn, hplain, hback, hopening,
      hclosing]

end ScanState

/-- The quotes of a dialect, parentheses, and words of letters, digits and underscores. -/
def Lexis.ofProfile (p : Profile) : Lexis where
  State := ScanState
  start := {}
  next := ScanState.next p
  isOuter s := s.mode.isOutside && s.depth == 0
  isWordPart := TypeText.isWordChar
  isOuter_start := rfl
  next_start := ScanState.next_blank
  isOuter_next s _ := s.isOuter_next_blank
  isWordPart_blank := TypeText.not_isWordChar_of_isBlank

namespace Column

variable {c : Column} (d : Dialect)

/-- What stands for all other cases of a column: the declared text if there is one, else the value
of the column without its cases. -/
def otherwise (d : Dialect) (c : Column) : String :=
  if c.transformations.conditional.otherwise = "" then (c.withoutCases.compile d).expression
  else d.profile.quoteLiteral c.transformations.conditional.otherwise

theorem expression_compile_of_cases (h : c.transformations.malformations = [])
    (henabled : c.transformations.conditional.enabled) :
    (c.compile d).expression =
      d.profile.writeCases c.transformations.conditional.cases (c.otherwise d) := by
  have hwithout : (c.withoutCases.compile d).expression = (c.filled d.profile).expression := by
    rw [compile_of_sound d (malformations_withoutCases h)]
    rfl
  rw [compile_of_sound d h, otherwise, hwithout]
  exact if_pos henabled

end Column

namespace Lexis

/-- Whatever the results and the text for all other cases are made of, a case distinction is read
back in every dialect, by everyone who tells quotes, parentheses and words in its conditions. It
chooses the result of the first case whose condition is true, and where there is none, what stands
for all other cases. So does a column with these cases. -/
theorem readCases_chooses (L : Lexis) (d : Dialect) {cases : List ConditionalCase}
    (hne : cases ≠ []) (hcases : ∀ c ∈ cases, L.IsCondition c.condition) (otherwise : String) :
    ∃ r : CaseText,
      L.readCases d.profile (d.profile.writeCases cases otherwise) = some r ∧
      r.branches = cases.map (fun c => (Text.trim c.condition, c.result)) ∧
      r.otherwise = otherwise ∧
      (∀ (α : Type) (truth : String → Truth) (text sql : String → α),
        (∀ before c after, cases = before ++ c :: after →
          (∀ b ∈ before, truth (Text.trim b.condition) ≠ some true) →
          truth (Text.trim c.condition) = some true → r.value truth text sql = text c.result) ∧
        ((∀ c ∈ cases, truth (Text.trim c.condition) ≠ some true) →
          r.value truth text sql = sql otherwise)) ∧
      ∀ column : Column, (∀ m, ¬ column.transformations.Violates m) →
        column.transformations.conditional.enabled →
        column.transformations.conditional.cases = cases →
        L.readCases d.profile (column.compile d).expression =
          some { r with otherwise := column.otherwise d } := by
  refine ⟨_, readCases_writeCases hne hcases otherwise, rfl, rfl, fun _ truth text sql => ⟨?_, ?_⟩,
    fun column hsound henabled hcolumn => ?_⟩
  · intro before c after heq hbefore hc
    have hbranches := congrArg
      (List.map fun c : ConditionalCase => (Text.trim c.condition, c.result)) heq
    rw [List.map_append, List.map_cons] at hbranches
    have hbranch : truth (Text.trim c.condition, c.result).1 = some true := hc
    exact CaseText.value_of_first hbranches (List.forall_mem_map.mpr hbefore) hbranch
  · intro hnone
    exact CaseText.value_of_none (List.forall_mem_map.mpr hnone)
  · rw [← not_exists, Transformations.not_violates_iff] at hsound
    rw [column.expression_compile_of_cases d hsound henabled, hcolumn,
      readCases_writeCases hne hcases]

/-- Cases with words of cases in quotes, in parentheses and in their results. -/
def hostileCases : List ConditionalCase :=
  [{ condition := " `then` = ' THEN ''x' OR (CASE WHEN `b` THEN 1 END) > 0\n"
     result := "it's \\' WHEN 'x' THEN 'y' ELSE END" },
    { condition := "`b` IS NULL AND a_then <> 'it\\'s'", result := "" }]

theorem readCases_chooses_hostileCases :
    hostileCases ≠ [] ∧ (∀ c ∈ hostileCases, (ofProfile .mysql).IsCondition c.condition) ∧
    ∃ r : CaseText,
      (ofProfile .mysql).readCases Dialect.mysql.profile
        (Dialect.mysql.profile.writeCases hostileCases "'x' END") = some r ∧
      r.branches =
        [("`then` = ' THEN ''x' OR (CASE WHEN `b` THEN 1 END) > 0",
            "it's \\' WHEN 'x' THEN 'y' ELSE END"),
          ("`b` IS NULL AND a_then <> 'it\\'s'", "")] ∧
      r.otherwise = "'x' END" := by
  have hne : hostileCases ≠ [] := List.cons_ne_nil _ _
  have hcases : ∀ c ∈ hostileCases, (ofProfile .mysql).IsCondition c.condition := by
    decide +kernel
  obtain ⟨r, hread, hbranches, hotherwise, -⟩ :=
    readCases_chooses (ofProfile .mysql) .mysql hne hcases "'x' END"
  refine ⟨hne, hcases, r, hread, ?_, hotherwise⟩
  rw [hbranches]
  decide

end Lexis

end CleanSql
