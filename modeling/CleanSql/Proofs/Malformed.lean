import Mathlib.Data.List.Nodup
import CleanSql.Proofs.Frame.Column
import CleanSql.Proofs.SyntaxCheck

/-!
# Malformed columns

What can be wrong with transforms is said here without reading them (`Transformations.Violates`).
It is what is told of them, once each (`Transformations.mem_malformations`,
`Transformations.nodup_malformations`); nothing else that is said is an error
(`Column.exists_error_iff`); and a run exits with two exactly if some column is malformed
(`CompilePlan.exitCode_checkedReport`).
-/
namespace CleanSql

inductive Transformations.Violates (t : Transformations) : Malformation → Prop where
  | emptyDelimiter : t.delimiterSplit.enabled → t.delimiterSplit.delimiter = "" →
      Violates t .emptyDelimiter
  | indexOutOfRange : t.delimiterSplit.enabled → t.delimiterSplit.index.toNat = UInt64.size - 1 →
      Violates t (.indexOutOfRange t.delimiterSplit.index)
  | emptyPattern : t.regex.enabled → t.regex.pattern = "" → Violates t .emptyPattern
  | noCases : t.conditional.enabled → t.conditional.cases = [] → Violates t .noCases
  | emptyCondition {place : Nat} {one : ConditionalCase} : t.conditional.enabled →
      t.conditional.cases[place]? = some one → (∀ ch ∈ one.condition.toList, Text.isBlank ch) →
      Violates t (.emptyCondition (place + 1))
  | emptyFilter : t.whereFilter.enabled → (∀ ch ∈ t.whereFilter.condition.toList, Text.isBlank ch) →
      Violates t .emptyFilter
  | unreadableType : Text.trim t.typeCast ≠ "" →
      DataType.ofCastName? (Text.trim t.typeCast) = none →
      ¬ IsTypeText (Text.trim t.typeCast).toList →
      Violates t (.unreadableType (Text.trim t.typeCast))

theorem DelimiterSplit.mem_malformations {s : DelimiterSplit} {m : Malformation} :
    m ∈ s.malformations ↔ s.enabled ∧ (s.delimiter = "" ∧ m = .emptyDelimiter ∨
      s.index.toNat = UInt64.size - 1 ∧ m = .indexOutOfRange s.index) := by
  have hindex : ¬ s.index.toNat + 1 < UInt64.size ↔ s.index.toNat = UInt64.size - 1 := by
    have hlt : s.index.toNat < UInt64.size := s.index.toNat_lt_size
    omega
  unfold malformations
  rw [← hindex]
  split_ifs <;> simp_all

theorem RegexTransform.mem_malformations {r : RegexTransform} {m : Malformation} :
    m ∈ r.malformations ↔ r.enabled ∧ r.pattern = "" ∧ m = .emptyPattern := by
  unfold malformations
  split_ifs <;> simp_all

theorem ConditionalTransform.mem_malformations {c : ConditionalTransform} {m : Malformation} :
    m ∈ c.malformations ↔ c.enabled ∧ (c.cases = [] ∧ m = .noCases ∨
      ∃ place one, c.cases[place]? = some one ∧ Text.isBlankText one.condition ∧
        m = .emptyCondition (place + 1)) := by
  have hplaces : (∃ x ∈ c.cases.zipIdx 1, (if Text.isBlankText x.1.condition then
      some (Malformation.emptyCondition x.2) else none) = some m) ↔
      ∃ place one, c.cases[place]? = some one ∧ Text.isBlankText one.condition ∧
        m = .emptyCondition (place + 1) := by
    constructor
    · rintro ⟨⟨one, n⟩, hone, hm⟩
      obtain ⟨hn, hget⟩ := List.mk_mem_zipIdx_iff_le_and_getElem?_sub.mp hone
      split_ifs at hm with hblank
      cases hm
      exact ⟨n - 1, one, hget, hblank, by rw [Nat.sub_add_cancel hn]⟩
    · rintro ⟨place, one, hget, hblank, rfl⟩
      refine ⟨(one, 1 + place), List.mk_add_mem_zipIdx_iff_getElem?.mpr hget, ?_⟩
      rw [if_pos hblank, Nat.add_comm]
  have hcases : m ∈ (if c.cases.isEmpty then [Malformation.noCases] else []) ↔
      c.cases = [] ∧ m = .noCases := by
    split_ifs with h <;> simp_all
  unfold malformations
  by_cases henabled : c.enabled
  · rw [if_pos henabled, List.mem_append, List.mem_filterMap, hcases]
    exact (or_congr_right hplaces).trans (and_iff_right henabled).symm
  · rw [if_neg henabled]
    exact iff_of_false List.not_mem_nil fun h => henabled h.1

theorem WhereFilter.mem_malformations {w : WhereFilter} {m : Malformation} :
    m ∈ w.malformations ↔ w.enabled ∧ Text.isBlankText w.condition ∧ m = .emptyFilter := by
  unfold malformations
  split_ifs <;> simp_all

theorem CastReading.mem_malformations {text : String} {m : Malformation} :
    m ∈ (CastReading.of text).malformations ↔ Text.trim text ≠ "" ∧
      DataType.ofCastName? (Text.trim text) = none ∧ ¬ IsTypeText (Text.trim text).toList ∧
        m = .unreadableType (Text.trim text) := by
  unfold CastReading.of
  rw [← isTypeName_iff]
  dsimp only
  by_cases hempty : Text.trim text = ""
  · simp [hempty, malformations]
  · rw [if_neg hempty]
    cases DataType.ofCastName? (Text.trim text) with
    | some type => simp [malformations]
    | none =>
      by_cases hname : isTypeName (Text.trim text)
      · simp [hname, malformations]
      · simp [hname, hempty, malformations]

theorem ConditionalTransform.nodup_malformations (c : ConditionalTransform) :
    c.malformations.Nodup := by
  have hplaces : (c.cases.zipIdx 1).Pairwise fun x y => x.2 < y.2 := by
    rw [← List.pairwise_map, List.zipIdx_map_snd]
    exact List.pairwise_lt_range'
  have hempty : ((c.cases.zipIdx 1).filterMap fun x => if Text.isBlankText x.1.condition then
      some (Malformation.emptyCondition x.2) else none).Nodup := by
    refine List.Pairwise.filterMap _ (fun x y hxy m hm n hn => ?_) hplaces
    split_ifs at hm hn
    cases hm
    cases hn
    intro h
    exact absurd (Malformation.emptyCondition.inj h) (Nat.ne_of_lt hxy)
  unfold malformations
  split_ifs with henabled hcases
  · rw [List.isEmpty_iff.mp hcases]
    exact List.nodup_singleton _
  · exact hempty
  · exact List.nodup_nil

namespace Transformations

theorem mem_malformations {t : Transformations} {m : Malformation} :
    m ∈ t.malformations ↔ t.Violates m := by
  have hblank (s : String) : Text.isBlankText s ↔ ∀ ch ∈ s.toList, Text.isBlank ch := by
    rw [Text.isBlankText, List.all_eq_true]
  simp only [malformations, List.mem_append, DelimiterSplit.mem_malformations,
    RegexTransform.mem_malformations, ConditionalTransform.mem_malformations,
    WhereFilter.mem_malformations, CastReading.mem_malformations, hblank]
  constructor
  · rintro ((((⟨hon, ⟨he, rfl⟩ | ⟨hi, rfl⟩⟩ | ⟨hon, he, rfl⟩) |
      ⟨hon, ⟨he, rfl⟩ | ⟨place, one, hget, he, rfl⟩⟩) | ⟨hon, he, rfl⟩) | ⟨hne, hn, ht, rfl⟩)
    · exact .emptyDelimiter hon he
    · exact .indexOutOfRange hon hi
    · exact .emptyPattern hon he
    · exact .noCases hon he
    · exact .emptyCondition hon hget he
    · exact .emptyFilter hon he
    · exact .unreadableType hne hn ht
  · intro h
    cases h with
    | emptyDelimiter hon he => exact .inl (.inl (.inl (.inl ⟨hon, .inl ⟨he, rfl⟩⟩)))
    | indexOutOfRange hon hi => exact .inl (.inl (.inl (.inl ⟨hon, .inr ⟨hi, rfl⟩⟩)))
    | emptyPattern hon he => exact .inl (.inl (.inl (.inr ⟨hon, he, rfl⟩)))
    | noCases hon he => exact .inl (.inl (.inr ⟨hon, .inl ⟨he, rfl⟩⟩))
    | emptyCondition hon hget he =>
      exact .inl (.inl (.inr ⟨hon, .inr ⟨_, _, hget, he, rfl⟩⟩))
    | emptyFilter hon he => exact .inl (.inr ⟨hon, he, rfl⟩)
    | unreadableType hne hn ht => exact .inr ⟨hne, hn, ht, rfl⟩

theorem nodup_malformations (t : Transformations) : t.malformations.Nodup := by
  have hsplit : t.delimiterSplit.malformations.Nodup := by
    unfold DelimiterSplit.malformations
    split_ifs <;> simp
  have hregex : t.regex.malformations.Nodup := by
    unfold RegexTransform.malformations
    split_ifs <;> simp
  have hfilter : t.whereFilter.malformations.Nodup := by
    unfold WhereFilter.malformations
    split_ifs <;> simp
  have hcast : (CastReading.of t.typeCast).malformations.Nodup := by
    cases CastReading.of t.typeCast <;> simp [CastReading.malformations]
  have hcases := t.conditional.nodup_malformations
  simp only [malformations, List.nodup_append, List.mem_append, DelimiterSplit.mem_malformations,
    RegexTransform.mem_malformations, ConditionalTransform.mem_malformations,
    WhereFilter.mem_malformations, CastReading.mem_malformations]
  refine ⟨⟨⟨⟨hsplit, hregex, ?_⟩, hcases, ?_⟩, hfilter, ?_⟩, hcast, ?_⟩ <;> grind

theorem exists_violates_iff {t : Transformations} :
    (∃ m, t.Violates m) ↔ t.malformations ≠ [] := by
  simp only [← mem_malformations]
  exact ⟨fun ⟨_, hm⟩ => List.ne_nil_of_mem hm, List.exists_mem_of_ne_nil _⟩

end Transformations

def Faultless (ds : List Diagnostic) : Prop := ∀ e ∈ ds, e.severity ≠ .error

namespace Faultless

theorem nil : Faultless [] := nofun

theorem append {xs ys : List Diagnostic} (hx : Faultless xs) (hy : Faultless ys) :
    Faultless (xs ++ ys) := by
  intro e he
  exact (List.mem_append.mp he).elim (hx e) (hy e)

theorem caveat (column : String) (v : Option Caveat) :
    Faultless (v.map fun c => Diagnostic.unsupported column c.message).toList := by
  cases v with
  | none => exact nil
  | some c =>
    intro e he
    rw [List.mem_singleton.mp he]
    nofun

theorem notice {severity : Severity} (h : severity ≠ .error) (column message : String) :
    Faultless [.notice column severity message] := by
  intro e he
  rw [List.mem_singleton.mp he]
  exact h

end Faultless

theorem Stage.faultless_notices (p : Profile) (column : String) (s : Stage) :
    Faultless (s.notices p column) := by
  refine .append ?_ (.caveat column _)
  unfold Progress.castNotice
  split
  · exact .notice (by decide) column _
  · exact .nil

namespace Column

theorem faultless_staged (p : Profile) (c : Column) : Faultless (c.staged p).diagnostics := by
  rw [staged_diagnostics]
  refine .append ?_ fun e he => ?_
  · unfold textNotice
    dsimp only
    split_ifs
    · exact .nil
    · exact .notice (by decide) c.name _
  · obtain ⟨s, -, he⟩ := List.mem_flatMap.mp he
    exact s.faultless_notices p c.name e he

theorem faultless_filled (p : Profile) (c : Column) : Faultless (c.filled p).diagnostics := by
  rw [filled_diagnostics]
  refine .append (c.faultless_staged p) ?_
  split_ifs
  · exact .caveat c.name _
  · exact .nil

theorem faultless_flagNotice (c : Column) : Faultless c.flagNotice := by
  unfold flagNotice
  split_ifs
  · exact .notice (by decide) c.name _
  · exact .nil

/-- A malformed column gives nothing away but its name and what is wrong with it. -/
theorem compile_of_malformed {c : Column} (d : Dialect) (h : c.transformations.malformations ≠ []) :
    c.compile d = c.degraded d.profile := by
  unfold compile
  dsimp only
  rw [if_neg]
  rwa [List.isEmpty_iff]

theorem exists_error_iff (d : Dialect) (c : Column) :
    (∃ e ∈ (c.compile d).diagnostics, e.severity = .error) ↔
      c.transformations.malformations ≠ [] := by
  constructor
  · rintro ⟨e, he, herror⟩ hnil
    have hcompile : (c.compile d).diagnostics =
        (c.filled d.profile).diagnostics ++ c.flagNotice := by
      unfold compile
      rw [hnil]
      rfl
    rw [hcompile] at he
    exact (c.faultless_filled d.profile).append c.faultless_flagNotice e he herror
  · intro h
    obtain ⟨m, hm⟩ := List.exists_mem_of_ne_nil _ h
    rw [compile_of_malformed d h]
    exact ⟨_, List.mem_map_of_mem hm, rfl⟩

end Column

namespace TableSpec

/-- What is said about the statement is no error. -/
theorem faultless_compile (d : Dialect) (t : TableSpec) : Faultless (t.compile d).diagnostics := by
  intro e he
  rcases List.mem_append.mp he with he | he
  · obtain ⟨name, -, rfl⟩ := List.mem_map.mp he
    nofun
  · obtain ⟨c, -, hclash⟩ := List.mem_filterMap.mp he
    obtain ⟨flag, -, hflag⟩ := Option.bind_eq_some_iff.mp hclash
    split_ifs at hflag
    cases hflag
    nofun

theorem exists_error_iff (d : Dialect) (t : TableSpec) :
    (∃ e ∈ (t.compile d).allDiagnostics, e.severity = .error) ↔
      ∃ c ∈ t.columns, c.transformations.malformations ≠ [] := by
  constructor
  · rintro ⟨e, he, herror⟩
    rcases List.mem_append.mp he with he | he
    · obtain ⟨r, hr, he⟩ := List.mem_flatMap.mp he
      obtain ⟨c, hc, rfl⟩ := List.mem_map.mp hr
      exact ⟨c, hc, (c.exists_error_iff d).mp ⟨e, he, herror⟩⟩
    · exact absurd herror (t.faultless_compile d e he)
  · rintro ⟨c, hc, h⟩
    obtain ⟨e, he, herror⟩ := (c.exists_error_iff d).mpr h
    exact ⟨e, List.mem_append_left _ (List.mem_flatMap.mpr ⟨_, List.mem_map_of_mem hc, he⟩), herror⟩

end TableSpec

theorem Report.exitCode_eq_two_iff (r : Report) :
    r.exitCode = 2 ↔ ∃ e ∈ r.diagnostics, e.severity = .error := by
  rw [exitCode_eq, ← countSeverity_pos_iff]
  split_ifs <;> simp_all

/-- What a reader complains about is no error. -/
theorem CompilePlan.exitCode_checkedReport (p : CompilePlan) (reader : SqlReader) (check : Bool)
    (t : TableSpec) : (p.checkedReport reader check t).exitCode = 2 ↔
      ∃ c ∈ t.columns, c.transformations.malformations ≠ [] := by
  have hreport : (p.report t).exitCode = 2 ↔
      ∃ c ∈ t.columns, c.transformations.malformations ≠ [] := by
    rw [Report.exitCode_eq_two_iff, ← t.exists_error_iff p.dialect]
    rfl
  cases check with
  | false => exact hreport
  | true =>
    have hexit := (p.checkedReport_extendsBy reader t).exitCode
    rw [← hreport, hexit]
    show max (p.report t).exitCode _ = 2 ↔ (p.report t).exitCode = 2
    split <;> omega

namespace Column

/-- In every dialect a column has an error exactly if its transforms are malformed. Then it is its
quoted name without filter and flag, and there is one error for each thing that is wrong, the same
in all dialects. A run exits with two exactly if a column of its table is malformed. -/
theorem errors_exactly_malformed :
    (∀ (d : Dialect) (c : Column), (∃ e ∈ (c.compile d).diagnostics, e.severity = .error) ↔
      ∃ m, c.transformations.Violates m) ∧
    (∀ c : Column, (∃ m, c.transformations.Violates m) →
      ∃ ms : List Malformation, ms.Nodup ∧ (∀ m, m ∈ ms ↔ c.transformations.Violates m) ∧
        ∀ d : Dialect, c.compile d =
          { name := c.name
            expression := d.profile.quoteIdentifier c.name
            rowFilter := none
            flag := none
            diagnostics := ms.map fun m => ⟨.error, .malformedConfig, c.name, m.message⟩ }) ∧
    ∀ (reader : SqlReader) (inks : Bool) (r : CompileRequest) (s : Settings) (file : Reading)
      (out : Compilation), r.run reader inks s file = .ok out →
      ∃ t, r.readTable file = .ok t ∧
        (out.report.exitCode = 2 ↔ ∃ c ∈ t.columns, ∃ m, c.transformations.Violates m) := by
  simp only [Transformations.exists_violates_iff]
  refine ⟨fun d c => c.exists_error_iff d, fun c h => ?_, fun reader inks r s file out h => ?_⟩
  · exact ⟨c.transformations.malformations, c.transformations.nodup_malformations,
      fun m => Transformations.mem_malformations, fun d => compile_of_malformed d h⟩
  · obtain ⟨t, plan, ht, -, hreport⟩ := CompileRequest.of_run_eq_ok h
    refine ⟨t, ht, ?_⟩
    rw [hreport]
    exact plan.exitCode_checkedReport reader r.check t

/-- A column that replaces the matches of no pattern. -/
def malformedColumn : Column where
  name := "c"
  transformations := { trim := true, regex := { enabled := true } }

def malformedRequest : CompileRequest where
  table := "-"
  dialect := some .mysql
  target := some .all

def malformedFile : Reading :=
  .ok ("\x7b\"name\": \"t\", \"columns\": [\x7b\"name\": \"c\", \"transformations\": " ++
    "\x7b\"trim\": true, \"regex\": \x7b\"enabled\": true\x7d\x7d\x7d]\x7d")

theorem malformedColumn_malformedRequest :
    (∃ ms : List Malformation, ms.Nodup ∧
      (∀ m, m ∈ ms ↔ malformedColumn.transformations.Violates m) ∧
      ∀ d : Dialect, malformedColumn.compile d =
        { name := malformedColumn.name
          expression := d.profile.quoteIdentifier malformedColumn.name
          rowFilter := none
          flag := none
          diagnostics :=
            ms.map fun m => ⟨.error, .malformedConfig, malformedColumn.name, m.message⟩ }) ∧
    ∃ out, malformedRequest.run (fun _ _ => none) false {} malformedFile = .ok out ∧
      ∃ t, malformedRequest.readTable malformedFile = .ok t ∧
        (out.report.exitCode = 2 ↔ ∃ c ∈ t.columns, ∃ m, c.transformations.Violates m) := by
  refine ⟨errors_exactly_malformed.2.1 malformedColumn ⟨_, .emptyPattern rfl rfl⟩, ?_⟩
  have hformat : TableFormat.ofPath malformedRequest.table = .json := TableFormat.ofPath_dash
  have hread : (malformedRequest.readTable malformedFile).isOk := by
    unfold CompileRequest.readTable
    rw [hformat]
    decide +kernel
  cases ht : malformedRequest.readTable malformedFile with
  | error f =>
    rw [ht] at hread
    cases hread
  | ok t =>
    have hrun : (malformedRequest.run (fun _ _ => none) false {} malformedFile).isOk := by
      unfold CompileRequest.run
      rw [ht]
      rfl
    cases h : malformedRequest.run (fun _ _ => none) false {} malformedFile with
    | error f =>
      rw [h] at hrun
      cases hrun
    | ok out =>
      rw [← ht]
      exact ⟨out, rfl, errors_exactly_malformed.2.2 _ _ _ _ _ _ h⟩

end Column

end CleanSql
