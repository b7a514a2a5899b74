import Mathlib.Data.List.Infix
import Mathlib.Order.Monotone.Defs
import CleanSql.Report.Basic

/-!
# The figures of a report

A report carries counts of its diagnostics; its gravest severity and its exit code are found again
from the diagnostics each time they are asked for. The counts are those of the severities
(`Summary.of_eq`) and stay so under every sequence of pushes (`Report.IsCounted.pushAll_eq`). The
exit code is the rank of the gravest severity, so that it is bounded by what bounds all ranks
(`Report.exitCode_le_iff`).
-/
namespace CleanSql

namespace Severity

theorem rank_injective : Function.Injective rank := by
  intro a b h
  cases a <;> cases b <;> first | rfl | cases h

theorem foldl_max_mem (s : Severity) (l : List Severity) : l.foldl max s ∈ s :: l := by
  induction l generalizing s with
  | nil => exact List.mem_cons_self
  | cons t l ih =>
    have hmax : max s t = s ∨ max s t = t := by
      unfold max
      split
      · exact .inr rfl
      · exact .inl rfl
    rw [List.foldl_cons]
    rcases List.mem_cons.mp (ih (max s t)) with h | h
    · rw [h]
      rcases hmax with hs | ht
      · rw [hs]
        exact List.mem_cons_self
      · rw [ht]
        exact List.mem_cons_of_mem s List.mem_cons_self
    · exact List.mem_cons_of_mem s (List.mem_cons_of_mem t h)

theorem rank_le_foldl_max (s : Severity) (l : List Severity) :
    ∀ t ∈ s :: l, t.rank ≤ (l.foldl max s).rank := by
  induction l generalizing s with
  | nil => simp
  | cons u l ih =>
    have hmax : s.rank ≤ (max s u).rank ∧ u.rank ≤ (max s u).rank := by
      unfold max
      split <;> omega
    have hstart := ih (max s u) (max s u) List.mem_cons_self
    intro t ht
    rw [List.foldl_cons]
    rcases List.mem_cons.mp ht with rfl | ht
    · omega
    rcases List.mem_cons.mp ht with rfl | ht
    · omega
    · exact ih (max s u) t (List.mem_cons_of_mem _ ht)

theorem max?_eq_none_iff {l : List Severity} : max? l = none ↔ l = [] := by
  cases l <;> simp [max?]

/-- The gravest severity of a list stands in it, and no other one is graver. -/
theorem max?_eq_some_iff {l : List Severity} {s : Severity} :
    max? l = some s ↔ s ∈ l ∧ ∀ t ∈ l, t.rank ≤ s.rank := by
  cases l with
  | nil => simp [max?]
  | cons a l =>
    have hmem := foldl_max_mem a l
    have hbound := rank_le_foldl_max a l
    rw [max?, Option.some_inj]
    constructor
    · rintro rfl
      exact ⟨hmem, hbound⟩
    · rintro ⟨hs, hle⟩
      exact rank_injective (Nat.le_antisymm (hle _ hmem) (hbound s hs))

end Severity

theorem countSeverity_cons (s : Severity) (d : Diagnostic) (ds : List Diagnostic) :
    countSeverity s (d :: ds) = countSeverity s ds + if d.severity = s then 1 else 0 := by
  simp [countSeverity, List.countP_cons]

theorem countSeverity_pos_iff {s : Severity} {ds : List Diagnostic} :
    0 < countSeverity s ds ↔ ∃ d ∈ ds, d.severity = s := by
  simp [countSeverity, List.countP_pos_iff]

/-- Every diagnostic has one of the three severities. -/
theorem countSeverity_add (ds : List Diagnostic) :
    countSeverity .error ds + countSeverity .warning ds + countSeverity .info ds = ds.length := by
  induction ds with
  | nil => rfl
  | cons d ds ih =>
    simp only [countSeverity_cons, List.length_cons]
    cases d.severity <;> simp <;> omega

namespace Summary

theorem foldl_add (s : Summary) (ds : List Diagnostic) :
    ds.foldl (fun s d => s.add d.severity) s =
      ⟨s.errors + countSeverity .error ds, s.warnings + countSeverity .warning ds,
        s.info + countSeverity .info ds⟩ := by
  induction ds generalizing s with
  | nil => rfl
  | cons d ds ih =>
    rw [List.foldl_cons, ih]
    simp only [countSeverity_cons]
    cases d.severity <;> simp [add] <;> omega

theorem of_eq (ds : List Diagnostic) :
    of ds = ⟨countSeverity .error ds, countSeverity .warning ds, countSeverity .info ds⟩ := by
  rw [of, foldl_add]
  simp

end Summary

namespace Report

section ExitCode

variable (r : Report)

theorem maxSeverity?_eq_none_iff : r.maxSeverity? = none ↔ r.diagnostics = [] := by
  rw [maxSeverity?, Severity.max?_eq_none_iff, List.map_eq_nil_iff]

theorem maxSeverity?_eq_some_iff (s : Severity) : r.maxSeverity? = some s ↔
    (∃ e ∈ r.diagnostics, e.severity = s) ∧ ∀ e ∈ r.diagnostics, e.severity.rank ≤ s.rank := by
  rw [maxSeverity?, Severity.max?_eq_some_iff, List.mem_map, List.forall_mem_map]

theorem exitCode_eq_rank : r.exitCode = r.maxSeverity?.elim 0 Severity.rank := by
  unfold exitCode
  split <;> simp_all [Severity.rank]

/-- The exit code is the least number that no rank exceeds. -/
theorem exitCode_le_iff (n : Nat) :
    r.exitCode ≤ n ↔ ∀ e ∈ r.diagnostics, e.severity.rank ≤ n := by
  rw [exitCode_eq_rank]
  cases h : r.maxSeverity? with
  | none =>
    have hnil := r.maxSeverity?_eq_none_iff.mp h
    simp [hnil]
  | some s =>
    obtain ⟨⟨e, he, hs⟩, hbound⟩ := (r.maxSeverity?_eq_some_iff s).mp h
    constructor
    · intro hn e he
      exact (hbound e he).trans hn
    · intro hall
      have hle := hall e he
      rwa [hs] at hle

theorem rank_le_exitCode {e : Diagnostic} (he : e ∈ r.diagnostics) :
    e.severity.rank ≤ r.exitCode :=
  (r.exitCode_le_iff _).mp le_rfl e he

/-- A report that says all that another one does exits with no less. -/
theorem exitCode_mono {r r' : Report} (h : r.diagnostics ⊆ r'.diagnostics) :
    r.exitCode ≤ r'.exitCode :=
  (r.exitCode_le_iff _).mpr fun _ he => r'.rank_le_exitCode (h he)

theorem exitCode_push (d : Diagnostic) :
    (r.push d).exitCode = max r.exitCode d.severity.rank := by
  refine eq_of_forall_ge_iff fun n => ?_
  rw [Nat.max_le, exitCode_le_iff, exitCode_le_iff]
  simp [push, or_imp, forall_and]

theorem exitCode_eq : r.exitCode =
    if 0 < countSeverity .error r.diagnostics then 2
    else if 0 < countSeverity .warning r.diagnostics then 1 else 0 := by
  simp only [countSeverity_pos_iff, exitCode]
  cases h : r.maxSeverity? with
  | none =>
    have hnil := r.maxSeverity?_eq_none_iff.mp h
    simp [hnil]
  | some s =>
    obtain ⟨hs, hbound⟩ := (r.maxSeverity?_eq_some_iff s).mp h
    have hnone (g : Severity) (hg : s.rank < g.rank) :
        ¬ ∃ e ∈ r.diagnostics, e.severity = g := by
      rintro ⟨e, he, rfl⟩
      have hle := hbound e he
      omega
    cases s with
    | error => rw [if_pos hs]
    | warning => rw [if_neg (hnone .error (by decide)), if_pos hs]
    | info => rw [if_neg (hnone .error (by decide)), if_neg (hnone .warning (by decide))]

end ExitCode

section Pushed

def pushAll (r : Report) (ds : List Diagnostic) : Report := ds.foldl push r

/-- What is counted in the summary is what the report says. -/
def IsCounted (r : Report) : Prop := r.summary = Summary.of r.diagnostics

theorem isCounted_ofStatement (s : Statement) (layer : Layer) (target : Target)
    (sql : Option String) (dbt : Option DbtModel) :
    IsCounted (ofStatement s layer target sql dbt) := rfl

theorem isCounted_push (r : Report) (d : Diagnostic) : (r.push d).IsCounted := rfl

theorem IsCounted.pushAll_eq {r : Report} (h : r.IsCounted) (ds : List Diagnostic) :
    r.pushAll ds =
      { r with
        diagnostics := r.diagnostics ++ ds
        summary := Summary.of (r.diagnostics ++ ds) } := by
  induction ds generalizing r with
  | nil => rw [List.append_nil, ← h, pushAll, List.foldl_nil]
  | cons d ds ih =>
    have hrest : r.pushAll (d :: ds) = (r.push d).pushAll ds := rfl
    rw [hrest, ih (r.isCounted_push d)]
    simp [push]

theorem IsCounted.monotone_exitCode {r : Report} (h : r.IsCounted) (ds : List Diagnostic) :
    Monotone fun k => (r.pushAll (ds.take k)).exitCode := by
  intro k l hkl
  apply exitCode_mono
  rw [h.pushAll_eq, h.pushAll_eq]
  have htake : ds.take k ⊆ ds.take l := (List.take_prefix_take_left hkl).subset
  exact List.append_subset.mpr ⟨List.subset_append_left _ _,
    List.subset_append_of_subset_right _ htake⟩

/-- Over every sequence of pushes on the report of a statement: what the report says is what the
statement says, about columns first, and then what was pushed; the summary counts it by severity and
leaves nothing out; the gravest severity is one of those of the report, and none is graver; the exit
code follows from the counts and never goes down; and nothing else changes. -/
theorem figures_pushAll_ofStatement (s : Statement) (layer : Layer) (target : Target)
    (sql : Option String) (dbt : Option DbtModel) (pushed : List Diagnostic) :
    let first := ofStatement s layer target sql dbt
    let r := first.pushAll pushed
    r.diagnostics = s.projection.flatMap (·.diagnostics) ++ s.diagnostics ++ pushed ∧
    r.summary.errors = countSeverity .error r.diagnostics ∧
    r.summary.warnings = countSeverity .warning r.diagnostics ∧
    r.summary.info = countSeverity .info r.diagnostics ∧
    r.summary.errors + r.summary.warnings + r.summary.info = r.diagnostics.length ∧
    (r.maxSeverity? = none ↔ r.diagnostics = []) ∧
    (∀ g, r.maxSeverity? = some g ↔
      (∃ e ∈ r.diagnostics, e.severity = g) ∧ ∀ e ∈ r.diagnostics, e.severity.rank ≤ g.rank) ∧
    r.exitCode = (if 0 < r.summary.errors then 2 else if 0 < r.summary.warnings then 1 else 0) ∧
    (Monotone fun k => (first.pushAll (pushed.take k)).exitCode) ∧
    { r with diagnostics := first.diagnostics, summary := first.summary } = first := by
  intro first r
  have hfirst : first.IsCounted := isCounted_ofStatement s layer target sql dbt
  have hrun : r = { first with
      diagnostics := first.diagnostics ++ pushed
      summary := Summary.of (first.diagnostics ++ pushed) } := hfirst.pushAll_eq pushed
  have hcounts : r.summary = ⟨countSeverity .error r.diagnostics,
      countSeverity .warning r.diagnostics, countSeverity .info r.diagnostics⟩ := by
    rw [← Summary.of_eq, hrun]
  have hlength : r.summary.errors + r.summary.warnings + r.summary.info = r.diagnostics.length := by
    rw [hcounts]
    exact countSeverity_add r.diagnostics
  have hexit : r.exitCode =
      if 0 < r.summary.errors then 2 else if 0 < r.summary.warnings then 1 else 0 := by
    rw [hcounts]
    exact r.exitCode_eq
  refine ⟨?_, ?_, ?_, ?_, hlength, r.maxSeverity?_eq_none_iff, r.maxSeverity?_eq_some_iff, hexit,
    hfirst.monotone_exitCode pushed, ?_⟩
  · rw [hrun]
    rfl
  · rw [hcounts]
  · rw [hcounts]
  · rw [hcounts]
  · rw [hrun]

end Pushed

end Report

end CleanSql
