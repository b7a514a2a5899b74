import CleanSql.Proofs.Malformed

/-!
# Row filters

Predicates are put together twice: those of a column, and then those of all columns. What comes of
it is the same as if the predicates of all columns were put together at once
(`conjoin?_filterMap_conjoin?`), so that the clause of a table is a flat list of predicates in
parentheses (`TableSpec.whereClause_compile`), and that of two halves is made of theirs.
-/
namespace CleanSql

/-- Texts with a conjunction between them; none if there are none. -/
def conjoin? (texts : List String) : Option String :=
  if texts = [] then none else some (String.intercalate " AND " texts)

def inParens (sql : String) : String := "(" ++ sql ++ ")"

@[simp] theorem conjoin?_nil : conjoin? [] = none := rfl

theorem conjoin?_of_ne_nil {texts : List String} (h : texts ≠ []) :
    conjoin? texts = some (String.intercalate " AND " texts) := if_neg h

theorem conjoin?_eq_none_iff {texts : List String} : conjoin? texts = none ↔ texts = [] := by
  by_cases h : texts = [] <;> simp [conjoin?, h]

theorem conjunction?_eq (predicates : List String) :
    conjunction? predicates = conjoin? (predicates.map inParens) := by
  cases predicates <;> rfl

theorem Statement.whereClause?_eq (projection : List CompiledColumn) :
    whereClause? projection = conjoin? (projection.filterMap (·.rowFilter)) := by
  unfold whereClause? conjoin?
  simp only [List.isEmpty_iff]

/-- What was put together already is put together with one text more as if it were flat. -/
theorem conjoin?_cons_conjoin (xs ys : List String) (hx : xs ≠ []) :
    conjoin? (String.intercalate " AND " xs :: ys) = conjoin? (xs ++ ys) := by
  rw [conjoin?_of_ne_nil (List.cons_ne_nil _ _),
    conjoin?_of_ne_nil (List.append_ne_nil_of_left_ne_nil hx ys)]
  by_cases hy : ys = []
  · rw [hy, String.intercalate_singleton, List.append_nil]
  · rw [String.intercalate_cons_of_ne_nil hy, String.intercalate_append_of_ne_nil hx hy]

/-- A conjunction depends on what follows its first text only through the conjunction of that. -/
theorem conjoin?_append_congr (xs : List String) {ys zs : List String}
    (h : conjoin? ys = conjoin? zs) : conjoin? (xs ++ ys) = conjoin? (xs ++ zs) := by
  by_cases hy : ys = []
  · rw [hy, conjoin?_nil, eq_comm, conjoin?_eq_none_iff] at h
    rw [hy, h]
  · have hz : zs ≠ [] := by
      rintro rfl
      exact hy (conjoin?_eq_none_iff.mp h)
    rw [conjoin?_of_ne_nil hy, conjoin?_of_ne_nil hz, Option.some.injEq] at h
    by_cases hx : xs = []
    · rw [hx, List.nil_append, List.nil_append, conjoin?_of_ne_nil hy, conjoin?_of_ne_nil hz, h]
    · rw [conjoin?_of_ne_nil (List.append_ne_nil_of_left_ne_nil hx _),
        conjoin?_of_ne_nil (List.append_ne_nil_of_left_ne_nil hx _),
        String.intercalate_append_of_ne_nil hx hy, String.intercalate_append_of_ne_nil hx hz, h]

theorem conjoin?_filterMap_conjoin? (groups : List (List String)) :
    conjoin? (groups.filterMap conjoin?) = conjoin? groups.flatten := by
  induction groups with
  | nil => rfl
  | cons xs groups ih =>
    rw [List.flatten_cons]
    by_cases hx : xs = []
    · rw [List.filterMap_cons_none (conjoin?_eq_none_iff.mpr hx), ih, hx, List.nil_append]
    · rw [List.filterMap_cons_some (conjoin?_of_ne_nil hx), conjoin?_cons_conjoin _ _ hx]
      exact conjoin?_append_congr xs ih

instance (t : Transformations) : Decidable (∃ m, t.Violates m) :=
  decidable_of_iff _ Transformations.exists_violates_iff.symm

theorem Transformations.not_violates_iff {t : Transformations} :
    (¬ ∃ m, t.Violates m) ↔ t.malformations = [] := by
  rw [exists_violates_iff, not_not]

namespace Column

def withoutCases (c : Column) : Column := { c with transformations.conditional.enabled := false }

/-- What has to hold of a row for a column: that it is not to be dropped, where a custom expression
is asked for its value before any cases, and the column's own condition. Malformed columns ask for
nothing. -/
def rowPredicates (d : Dialect) (c : Column) : List String :=
  if ∃ m, c.transformations.Violates m then []
  else
    (if c.transformations.nullStrategy = .drop then
      [(if Text.trim c.transformations.customExpression = "" then d.profile.quoteIdentifier c.name
        else (c.withoutCases.compile d).expression) ++ " IS NOT NULL"]
    else []) ++
    (if c.transformations.whereFilter.enabled then
      [Text.trim c.transformations.whereFilter.condition]
    else [])

variable {d : Dialect} {c : Column}

theorem malformations_withoutCases (h : c.transformations.malformations = []) :
    c.withoutCases.transformations.malformations = [] := by
  simp only [Transformations.malformations, List.append_eq_nil_iff] at h ⊢
  exact ⟨⟨⟨h.1.1.1, rfl⟩, h.1.2⟩, h.2⟩

/-- Without cases, and with rows dropped where it is null, a value is what its stages make of it. -/
theorem expression_withoutCases (h : c.transformations.malformations = [])
    (hdrop : c.transformations.nullStrategy = .drop) :
    (c.withoutCases.compile d).expression = (c.staged d.profile).expression := by
  have hfilled : c.withoutCases.filled d.profile = c.withoutCases.staged d.profile := by
    unfold filled
    exact if_neg (by rw [withoutCases, hdrop]; decide)
  have hvalue : c.withoutCases.value d.profile = (c.withoutCases.filled d.profile).expression := rfl
  rw [compile_of_sound d (malformations_withoutCases h), hvalue, hfilled]
  rfl

theorem rowPredicates_eq (h : c.transformations.malformations = []) :
    c.rowPredicates d = c.predicates d.profile := by
  rw [rowPredicates, if_neg (Transformations.not_violates_iff.mpr h), predicates]
  by_cases hdrop : c.transformations.nullStrategy = .drop
  · rw [expression_withoutCases h hdrop, dropPredicate, Profile.writeNotNull, reference,
      Transformations.customExpression?]
    by_cases hcustom : Text.trim c.transformations.customExpression = "" <;> simp [hcustom]
  · simp [hdrop]

theorem rowFilter_compile (d : Dialect) (c : Column) :
    (c.compile d).rowFilter = conjoin? ((c.rowPredicates d).map inParens) := by
  by_cases h : c.transformations.malformations = []
  · rw [rowPredicates_eq h, ← conjunction?_eq, compile_of_sound d h]
  · have hmalformed := Transformations.exists_violates_iff.mpr h
    rw [compile_of_malformed d h, rowPredicates, if_pos hmalformed]
    rfl

end Column

namespace TableSpec

variable (d : Dialect) (t : TableSpec)

def rowPredicates : List String := t.columns.flatMap (Column.rowPredicates d)

theorem whereClause_compile :
    (t.compile d).whereClause = conjoin? ((t.rowPredicates d).map inParens) := by
  have hfilters : (t.compile d).projection.filterMap (·.rowFilter) =
      (t.columns.map fun c => (c.rowPredicates d).map inParens).filterMap conjoin? := by
    rw [compile, List.filterMap_map, List.filterMap_map]
    exact List.filterMap_congr fun c _ => c.rowFilter_compile d
  rw [rowPredicates, List.map_flatMap, List.flatMap_def, ← conjoin?_filterMap_conjoin?, ← hfilters]
  exact Statement.whereClause?_eq _

/-- The clause of a table is the flat conjunction of all predicates on rows, each in parentheses;
there is none if there are no predicates. The clause of two lists of columns is the conjunction of
the clauses that they have on their own. -/
theorem whereClause_flat_conjunction :
    (t.compile d).whereClause =
      (if t.rowPredicates d = [] then none
        else some (String.intercalate " AND "
          ((t.rowPredicates d).map fun sql => "(" ++ sql ++ ")"))) ∧
    ∀ left right : List Column,
      (({ t with columns := left ++ right } : TableSpec).compile d).whereClause =
        conjoin? ([left, right].filterMap fun columns =>
          (({ t with columns } : TableSpec).compile d).whereClause) := by
  refine ⟨?_, fun left right => ?_⟩
  · rw [whereClause_compile]
    unfold conjoin?
    simp only [List.map_eq_nil_iff]
    rfl
  · have hparts : ([left, right].filterMap fun columns =>
          (({ t with columns } : TableSpec).compile d).whereClause) =
        ([left, right].map fun columns =>
          (({ t with columns } : TableSpec).rowPredicates d).map inParens).filterMap conjoin? := by
      rw [List.filterMap_map]
      exact List.filterMap_congr fun columns _ => whereClause_compile d _
    rw [hparts, conjoin?_filterMap_conjoin?, whereClause_compile]
    simp [rowPredicates]

end TableSpec

end CleanSql
