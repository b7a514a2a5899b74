import Mathlib.Data.List.Flatten
import Mathlib.Data.List.Perm.Subperm
import CleanSql.Proofs.OutputNames
import CleanSql.Proofs.ReportSummary

/-!
# More columns

A table that has all columns of another one, and more anywhere between them, says all that the other
one says. A column is compiled by itself, so that what is said about columns stays. Which column
repeats a name may change with the columns before it, but not how often a name is repeated at least
(`Statement.count_repeated`); and a flag that clashes with a declared column clashes all the same
with more columns declared (`Statement.clash?_of_subset`).
-/
namespace CleanSql

namespace Statement

/-- A name is repeated as often as it stands in the list, but not where it stands first. -/
theorem count_repeated (name : String) (seen l : List String) :
    (repeated seen l).count name = if name ∈ seen then l.count name else l.count name - 1 := by
  induction l generalizing seen with
  | nil => simp [repeated]
  | cons a l ih =>
    -- The first name is left out exactly if it is new, and what was new is seen from there on.
    by_cases ha : a ∈ seen
    · have hrepeated : repeated seen (a :: l) = a :: repeated seen l := by simp [repeated, ha]
      rw [hrepeated, List.count_cons, List.count_cons, ih]
      by_cases hname : a = name
      · have hseen : name ∈ seen := hname ▸ ha
        simp [hseen]
      · simp [hname]
    · have hrepeated : repeated seen (a :: l) = repeated (a :: seen) l := by simp [repeated, ha]
      rw [hrepeated, List.count_cons, ih]
      by_cases hname : a = name
      · have hseen : name ∉ seen := hname ▸ ha
        simp [hname, hseen]
      · simp [hname, Ne.symm hname]

theorem repeated_subperm {l l' : List String} (h : l.Sublist l') :
    (repeated [] l).Subperm (repeated [] l') := by
  apply List.subperm_ext_iff.mpr
  intro name _
  have hcount := h.count_le name
  simp only [count_repeated, List.not_mem_nil, if_false]
  omega

theorem clash?_of_subset {declared declared' : List String} (h : declared ⊆ declared')
    {c : CompiledColumn} {e : Diagnostic} (hclash : clash? declared c = some e) :
    clash? declared' c = some e := by
  obtain ⟨flag, hflag, hname⟩ := Option.bind_eq_some_iff.mp hclash
  apply Option.bind_eq_some_iff.mpr
  refine ⟨flag, hflag, ?_⟩
  split_ifs at hname with hdeclared
  have hdeclared' : declared'.contains flag.name :=
    List.contains_iff_mem.mpr (h (List.contains_iff_mem.mp hdeclared))
  rwa [if_pos hdeclared']

theorem clashes_sublist {declared declared' : List String} (h : declared ⊆ declared')
    {l l' : List CompiledColumn} (hl : l.Sublist l') :
    (l.filterMap (clash? declared)).Sublist (l'.filterMap (clash? declared')) := by
  apply (hl.filterMap (clash? declared)).trans
  rw [List.filterMap_eq_flatMap_toList, List.filterMap_eq_flatMap_toList]
  apply List.Sublist.flatMap_right
  intro c _
  cases hclash : clash? declared c with
  | none => exact List.nil_sublist _
  | some e => rw [clash?_of_subset h hclash]

end Statement

namespace TableSpec

variable (d : Dialect) {t u : TableSpec}

theorem projection_sublist (h : t.columns.Sublist u.columns) :
    (t.compile d).projection.Sublist (u.compile d).projection := h.map (Column.compile d)

theorem diagnostics_subperm (hname : t.name = u.name) (h : t.columns.Sublist u.columns) :
    (t.compile d).diagnostics.Subperm (u.compile d).diagnostics := by
  have hdeclared : t.declared.Sublist u.declared := h.map Column.name
  have hrepeated : ((Statement.repeated [] t.declared).map (Statement.duplicateNotice t.name)).Subperm
      ((Statement.repeated [] u.declared).map (Statement.duplicateNotice u.name)) := by
    obtain ⟨names, hperm, hsub⟩ := Statement.repeated_subperm hdeclared
    rw [hname]
    exact ⟨_, hperm.map _, hsub.map _⟩
  exact hrepeated.append
    (Statement.clashes_sublist hdeclared.subset (projection_sublist d h)).subperm

theorem allDiagnostics_subperm (hname : t.name = u.name) (h : t.columns.Sublist u.columns) :
    (t.compile d).allDiagnostics.Subperm (u.compile d).allDiagnostics :=
  ((projection_sublist d h).flatMap _).subperm.append (diagnostics_subperm d hname h)

/-- A table with all columns of another one in their order, and others among them, says at least
what the other one says, each thing as often, so that no count, neither the gravest severity nor the
exit code goes down. Each column is compiled to the same wherever it stands. -/
theorem compile_of_sublist (hname : t.name = u.name) (h : t.columns.Sublist u.columns) :
    (t.compile d).allDiagnostics.Subperm (u.compile d).allDiagnostics ∧
    (∀ s, (t.compile d).count s ≤ (u.compile d).count s) ∧
    (∀ s, (t.compile d).maxSeverity? = some s →
      ∃ s', (u.compile d).maxSeverity? = some s' ∧ s.rank ≤ s'.rank) ∧
    (∀ target target' catalog catalog', (Report.of t (t.compile d) target catalog).exitCode ≤
      (Report.of u (u.compile d) target' catalog').exitCode) ∧
    ∀ i j : Nat, t.columns[i]? = u.columns[j]? →
      (t.compile d).projection[i]? = (u.compile d).projection[j]? := by
  have hwithin := allDiagnostics_subperm d hname h
  refine ⟨hwithin, fun s => hwithin.countP_le _, fun s hs => ?_, fun _ _ _ _ => ?_, fun i j hij => ?_⟩
  · have hmem := (Severity.max?_eq_some_iff.mp hs).1
    have hmem' : s ∈ (u.compile d).allDiagnostics.map (·.severity) :=
      List.map_subset _ hwithin.subset hmem
    cases hs' : (u.compile d).maxSeverity? with
    | none =>
      rw [Severity.max?_eq_none_iff.mp hs'] at hmem'
      cases hmem'
    | some s' => exact ⟨s', rfl, (Severity.max?_eq_some_iff.mp hs').2 s hmem'⟩
  · apply Report.exitCode_mono
    exact hwithin.subset
  · show (t.columns.map (Column.compile d))[i]? = (u.columns.map (Column.compile d))[j]?
    rw [List.getElem?_map, List.getElem?_map, hij]

/-- A column whose flag is named as another column, and that column twice. -/
def clashingTable : TableSpec where
  name := "t"
  columns :=
    [{ name := "a", transformations := { nullStrategy := .flag } }, { name := "a_is_null" },
      { name := "a_is_null" }]

/-- The same with further columns of these names before, between and behind. -/
def crowdedTable : TableSpec where
  name := "t"
  layer := .silver
  columns :=
    [{ name := "a_is_null", nullable := false },
      { name := "a", transformations := { nullStrategy := .flag } }, { name := "a" },
      { name := "a_is_null" }, { name := "a_is_null" },
      { name := "b", transformations := { regex := { enabled := true } } }]

theorem compile_of_sublist_crowdedTable :
    clashingTable.columns.Sublist crowdedTable.columns ∧
    (clashingTable.compile .mysql).allDiagnostics.Subperm
      (crowdedTable.compile .mysql).allDiagnostics ∧
    (clashingTable.compile .mysql).count .warning ≤ (crowdedTable.compile .mysql).count .warning ∧
    (clashingTable.compile .mysql).projection[0]? =
      (crowdedTable.compile .mysql).projection[1]? := by
  have hcolumns : clashingTable.columns.Sublist crowdedTable.columns := by decide
  obtain ⟨hwithin, hcounts, -, -, hprojection⟩ :=
    compile_of_sublist .mysql (t := clashingTable) (u := crowdedTable) rfl hcolumns
  exact ⟨hcolumns, hwithin, hcounts .warning, hprojection 0 1 rfl⟩

end TableSpec

end CleanSql
