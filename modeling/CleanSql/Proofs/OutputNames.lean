import Mathlib.Data.Finset.Card
import Mathlib.Data.List.Dedup
import CleanSql.Document.Sql
import CleanSql.Proofs.Frame.Column

/-!
# Names of the output

What a statement says about itself is said about the names of its output: which columns are declared
a further time, and which flags have the name of a declared column. Two flags have one name only if
their columns do (`flagName_injective`), so that nothing is said exactly if no name of the output
occurs twice (`TableSpec.diagnostics_eq_nil_iff`).
-/
namespace CleanSql

theorem flagName_injective : Function.Injective flagName := by
  intro a b h
  have hlist : a.toList ++ "_is_null".toList = b.toList ++ "_is_null".toList := by
    rw [← String.toList_append, ← String.toList_append]
    exact congrArg String.toList h
  exact String.toList_inj.mp (List.append_cancel_right hlist)

namespace Statement

def outputs (s : Statement) : List (String × String) :=
  s.projection.flatMap fun c =>
    (c.expression, c.name) :: (c.flag.map fun flag => (flag.expression, flag.name)).toList

def aliases (s : Statement) : List String := s.outputs.map Prod.snd

/-- The flags by the names of their columns, with their own names. -/
def flagNames (s : Statement) : List (String × String) :=
  s.projection.flatMap fun c => (c.flag.map fun flag => (c.name, flag.name)).toList

/-- The names of a list that stand in it at an earlier place, too, each time they do. -/
def furtherNames (names : List String) : List String :=
  (names.zipIdx.filter fun x => x.1 ∈ names.take x.2).map Prod.fst

theorem selectItems_eq (s : Statement) :
    s.selectItems =
      s.outputs.map fun o => o.1 ++ " AS " ++ s.dialect.profile.quoteIdentifier o.2 := by
  rw [selectItems, outputs, List.map_flatMap]
  refine List.flatMap_congr fun c _ => ?_
  cases h : c.flag <;> simp [columnItems, selectItem, h]

section Repeated

theorem repeated_eq_filter (seen l : List String) : repeated seen l =
    (l.zipIdx.filter fun x => x.1 ∈ seen ∨ x.1 ∈ l.take x.2).map Prod.fst := by
  induction l generalizing seen with
  | nil => rfl
  | cons a l ih =>
    -- Behind the first name, to have stood before is to be seen or to be that name.
    have htail (known : List String) (hknown : ∀ x, x ∈ known ↔ x = a ∨ x ∈ seen) :
        repeated known l =
          ((l.zipIdx 1).filter fun x => x.1 ∈ seen ∨ x.1 ∈ (a :: l).take x.2).map Prod.fst := by
      rw [ih, List.zipIdx_succ, List.filter_map, List.map_map]
      refine congrArg (List.map Prod.fst) (List.filter_congr fun x _ => ?_)
      show decide _ = decide (x.1 ∈ seen ∨ x.1 ∈ (a :: l).take (x.2 + 1))
      rw [decide_eq_decide, hknown, List.take_succ_cons, List.mem_cons, or_assoc, or_left_comm]
    rw [List.zipIdx_cons, List.filter_cons]
    by_cases ha : a ∈ seen
    · have hknown (x : String) : x ∈ seen ↔ x = a ∨ x ∈ seen := by
        refine ⟨.inr, ?_⟩
        rintro (rfl | hx)
        · exact ha
        · exact hx
      simp [repeated, ha, htail seen hknown]
    · simp [repeated, ha, htail (a :: seen) fun x => List.mem_cons]

theorem repeated_nil (names : List String) : repeated [] names = furtherNames names := by
  rw [repeated_eq_filter, furtherNames]
  simp

example : furtherNames ["a", "b", "a", "a"] = ["a", "a"] := by decide

theorem length_repeated (seen l : List String) :
    (repeated seen l).length + (l.toFinset \ seen.toFinset).card = l.length := by
  induction l generalizing seen with
  | nil => simp [repeated]
  | cons a l ih =>
    by_cases ha : a ∈ seen
    · have hset : (a :: l).toFinset \ seen.toFinset = l.toFinset \ seen.toFinset := by
        rw [List.toFinset_cons, Finset.insert_sdiff_of_mem _ (List.mem_toFinset.mpr ha)]
      have hi := ih seen
      simp only [repeated, List.contains_iff_mem, ha, if_true, List.length_cons, hset]
      omega
    · have hset : (a :: l).toFinset \ seen.toFinset =
          insert a (l.toFinset \ (a :: seen).toFinset) := by
        ext x
        by_cases hx : x = a <;> simp [hx, ha]
      have hnew : a ∉ l.toFinset \ (a :: seen).toFinset := by simp
      have hi := ih (a :: seen)
      simp only [repeated, List.contains_iff_mem, ha, if_false, List.length_cons, hset,
        Finset.card_insert_of_notMem hnew]
      omega

theorem repeated_eq_nil_iff (seen l : List String) :
    repeated seen l = [] ↔ l.Nodup ∧ ∀ x ∈ l, x ∉ seen := by
  induction l generalizing seen with
  | nil => simp [repeated]
  | cons a l ih =>
    by_cases ha : a ∈ seen
    · simp [repeated, ha]
    · have hout : (∀ x ∈ l, x ∉ a :: seen) ↔ a ∉ l ∧ ∀ x ∈ l, x ∉ seen := by
        constructor
        · intro h
          exact ⟨fun hl => h a hl List.mem_cons_self,
            fun x hx hs => h x hx (List.mem_cons_of_mem a hs)⟩
        · rintro ⟨hl, h⟩ x hx hs
          obtain rfl | hs := List.mem_cons.mp hs
          · exact hl hx
          · exact h x hx hs
      simp only [repeated, List.contains_iff_mem, ha, if_false, ih, hout, List.nodup_cons,
        List.forall_mem_cons, not_false_eq_true, true_and]
      tauto

end Repeated

end Statement

namespace Column

theorem flag_compile {d : Dialect} {c : Column} {flag : Companion}
    (h : (c.compile d).flag = some flag) : flag.name = flagName c.name := by
  unfold compile flag? at h
  dsimp only at h
  split at h
  · split at h
    · cases h
      rfl
    · cases h
  · cases h

end Column

namespace TableSpec

def declared (t : TableSpec) : List String := t.columns.map (·.name)

variable (d : Dialect) (t : TableSpec)

theorem map_name_projection : (t.compile d).projection.map (·.name) = t.declared := by
  rw [declared, compile, List.map_map]
  exact List.map_congr_left fun c _ => c.name_compile d

theorem map_snd_flagNames : (t.compile d).flagNames.map Prod.snd =
    (t.compile d).projection.flatMap fun c => (c.flag.map (·.name)).toList := by
  rw [Statement.flagNames, List.map_flatMap]
  refine List.flatMap_congr fun c _ => ?_
  cases c.flag <;> rfl

/-- The names of the output are those of the columns and those of the flags. -/
theorem aliases_perm :
    (t.compile d).aliases.Perm (t.declared ++ (t.compile d).flagNames.map Prod.snd) := by
  have haliases : (t.compile d).aliases =
      (t.compile d).projection.flatMap fun c => [c.name] ++ (c.flag.map (·.name)).toList := by
    rw [Statement.aliases, Statement.outputs, List.map_flatMap]
    refine List.flatMap_congr fun c _ => ?_
    cases c.flag <;> rfl
  rw [haliases, map_snd_flagNames, ← map_name_projection d, List.map_eq_flatMap]
  exact (List.flatMap_append_perm _ _ _).symm

theorem flagNames_sublist :
    ((t.compile d).flagNames.map Prod.snd).Sublist (t.declared.map flagName) := by
  rw [map_snd_flagNames, declared, compile, List.flatMap_map, List.map_map]
  induction t.columns with
  | nil => exact .slnil
  | cons c cs ih =>
    rw [List.flatMap_cons, List.map_cons]
    cases h : (c.compile d).flag with
    | none => exact ih.cons _
    | some flag =>
      have hname : flag.name = flagName c.name := Column.flag_compile h
      rw [Option.map_some, Option.toList_some, List.singleton_append, hname]
      exact ih.cons_cons _

theorem nodup_aliases_iff : (t.compile d).aliases.Nodup ↔
    t.declared.Nodup ∧ ∀ f ∈ (t.compile d).flagNames, f.2 ∉ t.declared := by
  rw [(t.aliases_perm d).nodup_iff, List.nodup_append']
  constructor
  · rintro ⟨hnames, -, hdisjoint⟩
    exact ⟨hnames, fun f hf hdecl => hdisjoint hdecl (List.mem_map_of_mem hf)⟩
  · rintro ⟨hnames, hflags⟩
    have hnodup := (hnames.map flagName_injective).sublist (t.flagNames_sublist d)
    refine ⟨hnames, hnodup, fun name hdecl hname => ?_⟩
    obtain ⟨f, hf, rfl⟩ := List.mem_map.mp hname
    exact hflags f hf hdecl

theorem clashes_eq : (t.compile d).projection.filterMap (Statement.clash? t.declared) =
    ((t.compile d).flagNames.filter fun f => f.2 ∈ t.declared).map fun f =>
      Statement.clashNotice f.1 f.2 := by
  rw [Statement.flagNames, List.filter_flatMap, List.map_flatMap, List.filterMap_eq_flatMap_toList]
  refine List.flatMap_congr fun c _ => ?_
  cases h : c.flag with
  | none => simp [Statement.clash?, h]
  | some flag =>
    by_cases hdecl : flag.name ∈ t.declared <;> simp [Statement.clash?, h, hdecl]

theorem diagnostics_compile : (t.compile d).diagnostics =
    (Statement.furtherNames t.declared).map (Statement.duplicateNotice t.name) ++
      ((t.compile d).flagNames.filter fun f => f.2 ∈ t.declared).map fun f =>
        Statement.clashNotice f.1 f.2 := by
  rw [← Statement.repeated_nil, ← clashes_eq]
  rfl

theorem diagnostics_eq_nil_iff :
    (t.compile d).diagnostics = [] ↔ (t.compile d).aliases.Nodup := by
  rw [nodup_aliases_iff, diagnostics_compile, List.append_eq_nil_iff, List.map_eq_nil_iff,
    List.map_eq_nil_iff, ← Statement.repeated_nil, Statement.repeated_eq_nil_iff,
    List.filter_eq_nil_iff]
  simp

/-- What is said about a statement are warnings that a column has a name that stood before, once for
each such column in their order, and then that a flag has the name of a declared column. Nothing is
said exactly if the names of all that is selected are different. -/
theorem diagnostics_exactly_repeated_names :
    (t.compile d).selectItems =
      (t.compile d).outputs.map (fun o => o.1 ++ " AS " ++ d.profile.quoteIdentifier o.2) ∧
    ((t.compile d).diagnostics = [] ↔ (t.compile d).aliases.Nodup) ∧
    (t.compile d).diagnostics =
      (Statement.furtherNames t.declared).map (fun name =>
        { severity := .warning
          kind := .notice
          column := name
          message := "column '" ++ name ++ "' is declared more than once in table '" ++
            t.name ++ "'" }) ++
        ((t.compile d).flagNames.filter fun f => f.2 ∈ t.declared).map (fun f =>
          { severity := .warning
            kind := .notice
            column := f.1
            message := "null flag column '" ++ f.2 ++
              "' clashes with a declared column of the same name" }) ∧
    (Statement.furtherNames t.declared).length + t.declared.toFinset.card = t.columns.length := by
  refine ⟨Statement.selectItems_eq _, t.diagnostics_eq_nil_iff d, t.diagnostics_compile d, ?_⟩
  have hlength := Statement.length_repeated [] t.declared
  rw [List.toFinset_nil, Finset.sdiff_empty, Statement.repeated_nil] at hlength
  rw [hlength, declared, List.length_map]

end TableSpec

end CleanSql
