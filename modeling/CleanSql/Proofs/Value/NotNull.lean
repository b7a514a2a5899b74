import CleanSql.Document.Dbt
import CleanSql.Proofs.OutputNames
import CleanSql.Proofs.Value.Expression

/-!
# Tests for missing values

A schema file has a nullable column tested for missing values where those are dropped or replaced.
Replaced ones are none. Dropping asks for the column itself and not for what its stages make of it,
and of these a split gives null for a text with too few parts, in the dialects that take an element
of an array (`Stage.value_around_eq_none_iff`). So a value that is tested can be null in a row that
is selected: where such a split comes to such a text and no case stands in for the value.
-/
namespace CleanSql

/-- What the array of a split is separated by, in the dialects that take an element of an array. -/
def Profile.arraySeparator? (p : Profile) (delimiter : String) : Option String :=
  match p.split with
  | .regexArray _ => some (escapeRegex delimiter)
  | .safeArray _ => some delimiter
  | .part _ | .substringIndex | .unsupported => none

/-- The text has fewer parts than the element that a split takes. -/
def Expr.LacksPart (g : Engine) (row : Row) (p : Profile) (e : Expr) (delimiter : String)
    (index : UInt64) : Prop :=
  ∃ separator ∈ p.arraySeparator? delimiter, ∃ text ∈ e.value g row,
    (g.parts text separator).length ≤ index.toNat

section Values

variable {g : Engine} {row : Row} {p : Profile}

/-- Of all stages only a split makes null of a value. -/
theorem Stage.value_around_eq_none_iff (s : Stage) (e : Expr) :
    (s.around p e).value g row = none ↔ e.value g row = none ∨
      ∃ delimiter index, s = .split delimiter index ∧ e.LacksPart g row p delimiter index := by
  cases s with
  | split delimiter index =>
    cases h : p.split with
    | part name | substringIndex | unsupported =>
      simp [around, h, Expr.value, Expr.LacksPart, Profile.arraySeparator?]
    | regexArray name | safeArray name =>
      cases hvalue : e.value g row <;>
        simp [around, h, Expr.value, Expr.LacksPart, Profile.arraySeparator?, hvalue]
  | trim | upper | lower | title | strip | regex _ _ | cast _ => simp [around, Expr.value]

theorem Stage.value_allAround_eq_none_iff (stages : List Stage) (e : Expr) :
    (Stage.allAround p e stages).value g row = none ↔ e.value g row = none ∨
      ∃ before delimiter index after, stages = before ++ .split delimiter index :: after ∧
        (Stage.allAround p e before).LacksPart g row p delimiter index := by
  induction stages generalizing e with
  | nil => simp [allAround]
  | cons s stages ih =>
    have hcons (ss : List Stage) :
        Stage.allAround p e (s :: ss) = Stage.allAround p (s.around p e) ss := rfl
    rw [hcons, ih, value_around_eq_none_iff, or_assoc]
    refine or_congr_right ⟨?_, ?_⟩
    · rintro (⟨delimiter, index, rfl, hlacks⟩ | ⟨before, delimiter, index, after, rfl, hlacks⟩)
      · exact ⟨[], delimiter, index, stages, rfl, hlacks⟩
      · exact ⟨s :: before, delimiter, index, after, rfl, hlacks⟩
    · rintro ⟨_ | ⟨t, before⟩, delimiter, index, after, hstages, hlacks⟩
      · obtain ⟨rfl, rfl⟩ := List.cons.inj hstages
        exact .inl ⟨delimiter, index, rfl, hlacks⟩
      · obtain ⟨rfl, rfl⟩ := List.cons.inj hstages
        exact .inr ⟨before, delimiter, index, after, rfl, hlacks⟩

theorem Profile.value_replacementExpr_ne_none (type : DataType) (value : String) :
    (p.replacementExpr type value).value g row ≠ none := by
  unfold replacementExpr
  split_ifs
  · nofun
  · nofun
  · simp [Expr.value]
  · nofun
  · nofun
  · nofun
  · nofun

end Values

namespace Column

/-- A split of the column takes an element of an array that is too short for it. -/
def LacksPart (d : Dialect) (g : Engine) (row : Row) (c : Column) : Prop :=
  ∃ before delimiter index after,
    c.transformations.stages = before ++ .split delimiter index :: after ∧
      (Stage.allAround d.profile (.column c.name) before).LacksPart g row d.profile delimiter index

/-- No case applies, and no text is written in place of the value then. -/
def ShowsValueIn (g : Engine) (row : Row) (c : Column) : Prop :=
  c.transformations.conditional.enabled → c.transformations.conditional.otherwise = "" ∧
    ∀ one ∈ c.transformations.conditional.cases,
      g.condition (Text.trim one.condition) row ≠ some true

/-- No value of the column is to be missing: as it is declared, or because of what is done about
missing values if the column is in order. -/
def IsNotNull (c : Column) : Prop :=
  c.nullable = false ∨ (¬ ∃ m, c.transformations.Violates m) ∧
    (c.transformations.nullStrategy = .drop ∨ c.transformations.nullStrategy = .replace)

instance (c : Column) : Decidable c.IsNotNull := inferInstanceAs (Decidable (_ ∨ _))

variable {d : Dialect} {c : Column} {g : Engine} {row : Row}

theorem value_stagedExpr_eq_none_iff : (c.stagedExpr d.profile).value g row = none ↔
    row c.name = none ∨ c.LacksPart d g row :=
  Stage.value_allAround_eq_none_iff _ _

theorem value_filledExpr_eq_none_iff : (c.filledExpr d.profile).value g row = none ↔
    c.transformations.nullStrategy ≠ .replace ∧ (c.stagedExpr d.profile).value g row = none := by
  unfold filledExpr
  split_ifs with h
  · rw [Expr.value, Option.or_eq_none_iff]
    refine iff_of_false (fun hnone => ?_) fun hne => hne.1 h
    exact Profile.value_replacementExpr_ne_none _ _ hnone.2
  · exact (and_iff_right h).symm

/-- A column in order is null exactly where its value is that missing values are seen to, and is
shown. -/
theorem value_expr_eq_none_iff (h : ¬ ∃ m, c.transformations.Violates m) :
    (c.expr d).value g row = none ↔
      (c.filledExpr d.profile).value g row = none ∧ c.ShowsValueIn g row := by
  unfold expr ShowsValueIn
  dsimp only
  rw [if_neg h]
  split_ifs with henabled hotherwise
  · rw [Expr.value]
    cases hfind : c.transformations.conditional.cases.find? fun one =>
        g.condition (Text.trim one.condition) row = some true with
    | none =>
      rw [List.find?_eq_none] at hfind
      simp_all
    | some one =>
      have htrue := List.find?_some hfind
      have hmem := List.mem_of_find?_eq_some hfind
      refine iff_of_false nofun fun hshows => ?_
      exact (hshows.2 henabled).2 one hmem (by simpa using htrue)
  · rw [Expr.value]
    cases hfind : c.transformations.conditional.cases.find? fun one =>
        g.condition (Text.trim one.condition) row = some true <;>
      simp [Expr.value, hotherwise, henabled]
  · simp [henabled]

end Column

namespace DbtModel

/-- The entry of the column in the schema file has it tested for missing values. -/
def Tests (d : Dialect) (t : TableSpec) (c : Column) : Prop :=
  ∃ doc ∈ columnDocs t c (c.compile d), doc.name = c.name ∧ doc.notNull

instance (d : Dialect) (t : TableSpec) (c : Column) : Decidable (Tests d t c) :=
  inferInstanceAs (Decidable (∃ doc ∈ columnDocs t c (c.compile d), doc.name = c.name ∧ doc.notNull))

theorem schemaColumns_compile (d : Dialect) (t : TableSpec) :
    schemaColumns t (t.compile d) = t.columns.flatMap fun c => columnDocs t c (c.compile d) := by
  have hzip : t.columns.zip (t.columns.map (Column.compile d)) =
      t.columns.map fun c => (c, c.compile d) := by
    simpa only [List.map_id, id_eq] using @List.zip_map' _ _ _ id (Column.compile d) t.columns
  rw [schemaColumns, TableSpec.compile, hzip, List.flatMap_map]

theorem flagName_ne (name : String) : flagName name ≠ name := by
  intro h
  have hlength := congrArg String.length h
  rw [flagName, String.length_append] at hlength
  have hpositive : 0 < "_is_null".length := by decide
  omega

/-- Whether a column is tested is told from its declaration, but for whether that is in order. -/
theorem notNull_iff {d : Dialect} {c : Column} :
    (!c.nullable || isFilled c (c.compile d)) ↔
      c.IsNotNull := by
  have herrors : (c.compile d).hasErrors = false ↔ ¬ ∃ m, c.transformations.Violates m := by
    rw [Transformations.exists_violates_iff, ← Column.exists_error_iff d c, Bool.eq_false_iff]
    simp [CompiledColumn.hasErrors]
  rw [isFilled, Column.IsNotNull]
  simp only [Bool.or_eq_true, Bool.and_eq_true, Bool.not_eq_true', decide_eq_true_eq, herrors]

theorem tests_iff {d : Dialect} {t : TableSpec} {c : Column} : Tests d t c ↔ c.IsNotNull := by
  rw [← notNull_iff (d := d), Tests, columnDocs, List.exists_mem_cons_iff]
  refine or_iff_left_of_imp ?_ |>.trans (and_iff_right rfl)
  -- The other entry is that of the flag, which has another name.
  rintro ⟨doc, hdoc, hname, -⟩
  obtain ⟨flag, hflag, rfl⟩ := List.mem_map.mp (Option.toList_map ▸ hdoc)
  rw [Option.mem_toList] at hflag
  exact absurd ((Column.flag_compile hflag).symm.trans hname) (flagName_ne c.name)

/-- A schema file has the entries of the columns one after the other, and what is written for a
table without custom expressions are the texts of expressions and of tests of rows. In a row that
passes those, a column that is nullable and yet tested for missing values is null exactly where its
rows are to be dropped, an element of an array is taken that the array does not have, and the value
is shown. -/
theorem value_eq_none_iff_of_tests (d : Dialect) (t : TableSpec)
    (h : ∀ c ∈ t.columns, Text.trim c.transformations.customExpression = "") :
    (schemaColumns t (t.compile d) = t.columns.flatMap fun c => columnDocs t c (c.compile d)) ∧
    (∀ c ∈ t.columns, (c.expr d).text d.profile = (c.compile d).expression) ∧
    (t.compile d).whereClause = conjoin? (t.rowTests.map fun q => inParens (q.text d.profile)) ∧
    ∀ (g : Engine) (row : Row), t.Selects g row → ∀ c ∈ t.columns, c.nullable → Tests d t c →
      ((c.expr d).value g row = none ↔
        c.transformations.nullStrategy = .drop ∧ c.LacksPart d g row ∧ c.ShowsValueIn g row) := by
  refine ⟨schemaColumns_compile d t, fun c hc => Column.text_expr d (h c hc), ?_,
    fun g row hrow c hc hnullable htests => ?_⟩
  · rw [TableSpec.whereClause_compile, ← TableSpec.text_rowTests d h, List.map_map]
    rfl
  · obtain hnot | ⟨hsound, hstrategy⟩ := tests_iff.mp htests
    · exact absurd hnot (by simp [hnullable])
    rw [Column.value_expr_eq_none_iff hsound, Column.value_filledExpr_eq_none_iff,
      Column.value_stagedExpr_eq_none_iff]
    obtain hdrop | hreplace := hstrategy
    · have htest : RowTest.notNull (.column c.name) ∈ t.rowTests := by
        refine List.mem_flatMap.mpr ⟨c, hc, ?_⟩
        rw [Column.rowTests, if_neg hsound, if_pos hdrop]
        exact List.mem_cons_self
      have hrow : row c.name ≠ none := by
        have htrue := TableSpec.selects_iff.mp hrow _ htest
        simpa [RowTest.truth, Expr.value, Option.isSome_iff_ne_none] using htrue
      simp [hdrop, hrow]
    · simp [hreplace]

/-- A table whose column is cut at a hyphen, where rows without a value are dropped. -/
def partTable : TableSpec where
  name := "t"
  columns :=
    [{ name := "c"
       transformations :=
         { nullStrategy := .drop
           delimiterSplit := { enabled := true, delimiter := "-", index := 1 } } }]

/-- An engine that cuts texts at one character. -/
def cuttingEngine : Engine where
  form _ value := value
  form_hole _ := rfl
  parts text separator :=
    match separator.toList with
    | [c] => (text.toList.splitOn c).map String.ofList
    | _ => [text]
  condition _ _ := none

/-- A row whose columns are all texts without a hyphen. -/
def plainRow : Row := fun _ => some "a"

/-- The row is selected, and the column is nullable and tested. -/
theorem value_eq_none_partTable :
    (∀ c ∈ partTable.columns, Text.trim c.transformations.customExpression = "") ∧
    partTable.Selects cuttingEngine plainRow ∧
    ∀ c ∈ partTable.columns, c.nullable ∧ Tests .bigquery partTable c ∧
      ((c.expr .bigquery).value cuttingEngine plainRow = none ↔
        c.transformations.nullStrategy = .drop ∧ c.LacksPart .bigquery cuttingEngine plainRow ∧
          c.ShowsValueIn cuttingEngine plainRow) := by
  have hcustom : ∀ c ∈ partTable.columns, Text.trim c.transformations.customExpression = "" := by
    decide
  have hrow : partTable.Selects cuttingEngine plainRow := by decide
  have htests : ∀ c ∈ partTable.columns, c.nullable ∧ Tests .bigquery partTable c := by decide
  exact ⟨hcustom, hrow, fun c hc => ⟨(htests c hc).1, (htests c hc).2,
    (value_eq_none_iff_of_tests .bigquery partTable hcustom).2.2.2 cuttingEngine plainRow hrow c hc
      (htests c hc).1 (htests c hc).2⟩⟩

/-- A column can be null that is tested for missing values. -/
theorem not_value_ne_none_of_tests : ¬ ∀ (d : Dialect) (t : TableSpec),
    (∀ c ∈ t.columns, Text.trim c.transformations.customExpression = "") → ∀ row : Row,
      t.Selects cuttingEngine row → ∀ c ∈ t.columns, c.nullable → Tests d t c →
        (c.expr d).value cuttingEngine row ≠ none := by
  intro h
  have hne := h .bigquery partTable (by decide) plainRow (by decide) _ List.mem_cons_self
    (by decide) (by decide)
  exact hne (by decide)

end DbtModel

end CleanSql
