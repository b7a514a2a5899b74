import CleanSql.Proofs.Predicate.Formula
import CleanSql.Proofs.RowFilter

/-!
# The expressions of columns

What is written for a column without a custom expression is the text of an expression
(`Column.text_expr`), and what is asked of rows are the texts of tests (`Column.text_rowTests`).
Expressions have values in the rows of a table, which may be null. What the functions of an engine
compute and where conditions hold is left open; it is only said which forms can give null for a
value: the elements of arrays, beyond the end of the array.
-/
namespace CleanSql

open Predicate (Truth)

/-- The values of the columns of a row; null is none. -/
abbrev Row := String → Option String

/-- How an element of an array is asked for. -/
inductive Subscript where
  | plain
  | safeOffset
  deriving DecidableEq, Repr

namespace Subscript

/-- What stands between the arguments of the array and the index. -/
def opening : Subscript → String
  | plain => ")["
  | safeOffset => ")[SAFE_OFFSET("

def closing : Subscript → String
  | plain => "]"
  | safeOffset => ")]"

end Subscript

inductive Expr where
  | column (name : String)
  | literal (value : String)
  /-- A number or a truth value, written bare. -/
  | constant (sql : String)
  /-- What is written around one expression, such as the call of a function. -/
  | form (f : Frame) (e : Expr)
  /-- An element of the array that a function makes of a text and a separator. -/
  | element (function : String) (e : Expr) (separator : String) (s : Subscript) (index : UInt64)
  | coalesce (e fallback : Expr)
  | cases (branches : List ConditionalCase) (otherwise : Expr)
  deriving DecidableEq, Repr

/-- What an engine does where the text of an expression does not say it. -/
structure Engine where
  /-- The value that a form gives for a value; it gives null for null only. -/
  form : Frame → String → String
  form_hole : ∀ value, form [.hole] value = value
  /-- The array of the parts of a text between separators. -/
  parts : String → String → List String
  /-- The truth of a condition that is written as it stands. -/
  condition : String → Row → Truth

namespace Expr

def text (p : Profile) : Expr → String
  | column name => p.quoteIdentifier name
  | literal value => p.quoteLiteral value
  | constant sql => sql
  | form f e => f.fill p (e.text p)
  | element function e separator s index =>
    function ++ "(" ++ e.text p ++ ", " ++ p.quoteLiteral separator ++ s.opening ++
      toString index ++ s.closing
  | coalesce e fallback => p.writeCoalesce (e.text p) (fallback.text p)
  | cases branches otherwise => p.writeCases branches (otherwise.text p)

/-- The value in a row. An element beyond the end of its array is null, and of several cases the
first whose condition is true applies. -/
def value (g : Engine) (row : Row) : Expr → Option String
  | column name => row name
  | literal value => some value
  | constant sql => some sql
  | form f e => (e.value g row).map (g.form f)
  | element _ e separator _ index => (e.value g row).bind fun v => (g.parts v separator)[index.toNat]?
  | coalesce e fallback => (e.value g row).or (fallback.value g row)
  | cases branches otherwise =>
    match branches.find? fun one => g.condition (Text.trim one.condition) row = some true with
    | some one => some one.result
    | none => otherwise.value g row

end Expr

inductive RowTest where
  | notNull (e : Expr)
  /-- A condition that is written as it stands. -/
  | condition (sql : String)
  deriving DecidableEq, Repr

namespace RowTest

def text (p : Profile) : RowTest → String
  | notNull e => e.text p ++ " IS NOT NULL"
  | condition sql => sql

def truth (g : Engine) (row : Row) : RowTest → Truth
  | notNull e => some (e.value g row).isSome
  | condition sql => g.condition sql row

end RowTest

def Stage.around (p : Profile) (e : Expr) (s : Stage) : Expr :=
  match s with
  | split delimiter index =>
    match p.split with
    | .regexArray name => .element name e (escapeRegex delimiter) .plain index
    | .safeArray name => .element name e delimiter .safeOffset index
    | .part _ | .substringIndex | .unsupported => .form (s.frame p) e
  | trim | upper | lower | title | strip | regex _ _ | cast _ => .form (s.frame p) e

def Stage.allAround (p : Profile) (e : Expr) (stages : List Stage) : Expr :=
  stages.foldl (Stage.around p) e

def Profile.replacementExpr (p : Profile) (type : DataType) (value : String) : Expr :=
  if type.isNumeric then
    if isNumeral (Text.trim value) then .constant (Text.trim value) else .literal value
  else if type.isTemporal then .form (p.castFrame (.engine type)) (.literal value)
  else if type = .boolean then
    if (Text.trim value).toLower = "true" then .constant (p.writeBoolean true)
    else if (Text.trim value).toLower = "false" then .constant (p.writeBoolean false)
    else .literal value
  else .literal value

namespace Column

def stagedExpr (p : Profile) (c : Column) : Expr :=
  Stage.allAround p (.column c.name) c.transformations.stages

def filledExpr (p : Profile) (c : Column) : Expr :=
  if c.transformations.nullStrategy = .replace then
    .coalesce (c.stagedExpr p)
      (p.replacementExpr c.replacementType c.transformations.nullReplacement)
  else c.stagedExpr p

/-- The expression of a column that has no custom one. -/
def expr (d : Dialect) (c : Column) : Expr :=
  let e := c.filledExpr d.profile
  let cases := c.transformations.conditional
  if ∃ m, c.transformations.Violates m then .column c.name
  else if cases.enabled then
    .cases cases.cases (if cases.otherwise = "" then e else .literal cases.otherwise)
  else e

/-- What rows are asked for a column that has no custom expression. -/
def rowTests (c : Column) : List RowTest :=
  if ∃ m, c.transformations.Violates m then []
  else
    (if c.transformations.nullStrategy = .drop then [.notNull (.column c.name)] else []) ++
    if c.transformations.whereFilter.enabled then
      [.condition (Text.trim c.transformations.whereFilter.condition)]
    else []

end Column

section Texts

variable {p : Profile}

theorem Stage.text_around (s : Stage) (e : Expr) :
    (s.around p e).text p = (s.frame p).fill p (e.text p) := by
  cases s with
  | split delimiter index =>
    cases h : p.split with
    | part name | substringIndex | unsupported => simp only [around, h, Expr.text]
    | regexArray name | safeArray name =>
      simp [around, h, Expr.text, Subscript.opening, Subscript.closing, frame, Profile.splitFrame, SplitForm.base?,
        IndexBase.native?, Piece.write, String.append_assoc]
  | trim | upper | lower | title | strip | regex _ _ | cast _ => rfl

theorem Stage.text_allAround (stages : List Stage) (e : Expr) :
    (Stage.allAround p e stages).text p =
      Frame.around p (e.text p) (stages.map (Stage.frame p)) := by
  induction stages generalizing e with
  | nil => rfl
  | cons s stages ih =>
    rw [List.map_cons, Frame.around_cons, ← text_around]
    exact ih (s.around p e)

theorem Profile.text_replacementExpr (type : DataType) (value : String) :
    (p.replacementExpr type value).text p =
      (p.writeTypedLiteral type value).orKeep (p.quoteLiteral value) := by
  unfold replacementExpr writeTypedLiteral
  dsimp only
  split_ifs with hnumeric hnumeral htemporal hboolean htrue hfalse
  · rfl
  · rfl
  · rw [Expr.text, Expr.text, fill_castFrame, writeCast]
    cases p.castTarget type <;> rfl
  · rw [htrue]
    rfl
  · rw [hfalse]
    rfl
  · split
    · next h => exact absurd h htrue
    · next h => exact absurd h hfalse
    · rfl
  · rfl

end Texts

namespace Column

variable {d : Dialect} {c : Column}

theorem text_stagedExpr {p : Profile} (h : Text.trim c.transformations.customExpression = "") :
    (c.stagedExpr p).text p = (c.staged p).expression := by
  have hstart : c.startExpression p = p.quoteIdentifier c.name := by
    rw [startExpression, Transformations.customExpression?, if_pos h]
    rfl
  rw [stagedExpr, Stage.text_allAround, staged_expression, hstart]
  rfl

theorem text_filledExpr {p : Profile} (h : Text.trim c.transformations.customExpression = "") :
    (c.filledExpr p).text p = (c.filled p).expression := by
  unfold filledExpr filled
  dsimp only
  split_ifs
  · rw [Expr.text, text_stagedExpr h, Profile.text_replacementExpr]
    rfl
  · exact text_stagedExpr h

theorem text_expr (d : Dialect) (h : Text.trim c.transformations.customExpression = "") :
    (c.expr d).text d.profile = (c.compile d).expression := by
  unfold expr
  dsimp only
  by_cases hsound : c.transformations.malformations = []
  · rw [if_neg (Transformations.not_violates_iff.mpr hsound), compile_of_sound d hsound]
    unfold value
    dsimp only
    split_ifs
    · rw [Expr.text, text_filledExpr h]
    · rfl
    · exact text_filledExpr h
  · rw [if_pos (Transformations.exists_violates_iff.mpr hsound), compile_of_malformed d hsound]
    rfl

/-- The predicates of a column are the texts of its tests. -/
theorem text_rowTests (d : Dialect) (h : Text.trim c.transformations.customExpression = "") :
    c.rowTests.map (RowTest.text d.profile) = c.rowPredicates d := by
  unfold rowTests rowPredicates
  rw [if_pos h]
  split_ifs <;> rfl

end Column

namespace TableSpec

def rowTests (t : TableSpec) : List RowTest := t.columns.flatMap Column.rowTests

theorem text_rowTests {t : TableSpec} (d : Dialect)
    (h : ∀ c ∈ t.columns, Text.trim c.transformations.customExpression = "") :
    (t.rowTests.map (RowTest.text d.profile)) = t.rowPredicates d := by
  rw [rowTests, rowPredicates, List.map_flatMap]
  exact List.flatMap_congr fun c hc => Column.text_rowTests d (h c hc)

/-- The conjunction of all that a row is asked is true of it. -/
def Selects (g : Engine) (t : TableSpec) (row : Row) : Prop :=
  (t.rowTests.map (RowTest.truth g row)).foldl Truth.and (some true) = some true

instance (g : Engine) (t : TableSpec) (row : Row) : Decidable (t.Selects g row) :=
  inferInstanceAs (Decidable (_ = some true))

theorem selects_iff {g : Engine} {t : TableSpec} {row : Row} :
    t.Selects g row ↔ ∀ q ∈ t.rowTests, q.truth g row = some true := by
  have hand (a b : Truth) : a.and b = some true ↔ a = some true ∧ b = some true := by
    rcases a with _ | _ | _ <;> rcases b with _ | _ | _ <;> decide
  have hfold (l : List Truth) (a : Truth) :
      l.foldl Truth.and a = some true ↔ a = some true ∧ ∀ b ∈ l, b = some true := by
    induction l generalizing a with
    | nil => simp
    | cons b l ih => rw [List.foldl_cons, ih, hand, List.forall_mem_cons, and_assoc]
  rw [Selects, hfold, List.forall_mem_map]
  exact and_iff_right rfl

end TableSpec

end CleanSql
