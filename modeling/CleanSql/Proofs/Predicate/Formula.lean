import CleanSql.Proofs.Predicate.Word

/-!
# Predicates

Predicates over names, with the precedence that operators have in SQL: a test for null binds more
tightly than negation, this more tightly than conjunction, and disjunction binds least. The words
of a predicate determine it (`Formula.eq_of_words_eq`), since a reader that goes through them once
puts it together again (`parse_words`).
-/
namespace CleanSql.Predicate

/-- A predicate as it is written, parentheses included. -/
inductive Formula where
  | name (text : String)
  | group (f : Formula)
  | not (f : Formula)
  | and (f g : Formula)
  | or (f g : Formula)
  | isNull (f : Formula)
  | isNotNull (f : Formula)
  deriving DecidableEq, Repr

namespace Formula

def level : Formula → Nat
  | or _ _ => 0
  | and _ _ => 1
  | not _ => 2
  | name _ | group _ | isNull _ | isNotNull _ => 3

/-- Every operator binds less tightly than what it is applied to; those of one kind group to the
left. -/
def Proper : Formula → Prop
  | name _ => True
  | group f => f.Proper
  | not f => f.Proper ∧ 2 ≤ f.level
  | and f g => (f.Proper ∧ 1 ≤ f.level) ∧ g.Proper ∧ 2 ≤ g.level
  | or f g => f.Proper ∧ g.Proper ∧ 1 ≤ g.level
  | isNull f | isNotNull f => f.Proper ∧ 3 ≤ f.level

def words : Formula → List Word
  | name text => [.name text]
  | group f => .opening :: (f.words ++ [.closing])
  | not f => .not :: f.words
  | and f g => f.words ++ .and :: g.words
  | or f g => f.words ++ .or :: g.words
  | isNull f => f.words ++ [.is, .null]
  | isNotNull f => f.words ++ [.is, .not, .null]

end Formula

/-- The values of predicates; null is none. -/
abbrev Truth := Option Bool

namespace Truth

def not (a : Truth) : Truth := a.map fun b => !b

def and : Truth → Truth → Truth
  | some false, _ => some false
  | _, some false => some false
  | some true, some true => some true
  | _, _ => none

def or : Truth → Truth → Truth
  | some true, _ => some true
  | _, some true => some true
  | some false, some false => some false
  | _, _ => none

end Truth

def Formula.eval (v : String → Truth) : Formula → Truth
  | name text => v text
  | group f => f.eval v
  | not f => (f.eval v).not
  | and f g => (f.eval v).and (g.eval v)
  | or f g => (f.eval v).or (g.eval v)
  | isNull f => some (f.eval v).isNone
  | isNotNull f => some (f.eval v).isSome

structure Pending where
  disjunct : Option Formula := none
  conjunct : Option Formula := none
  negations : Nat := 0
  deriving DecidableEq, Repr

def negate : Nat → Formula → Formula
  | 0, f => f
  | n + 1, f => .not (negate n f)

namespace Pending

def conjoin (l : Pending) (f : Formula) : Formula :=
  match l.conjunct with
  | none => negate l.negations f
  | some g => .and g (negate l.negations f)

def disjoin (l : Pending) (f : Formula) : Formula :=
  match l.disjunct with
  | none => l.conjoin f
  | some g => .or g (l.conjoin f)

end Pending

inductive Phase where
  | operator
  | operand (f : Formula)
  /-- The first word of a test. -/
  | test (f : Formula)
  | testNot (f : Formula)
  deriving DecidableEq, Repr

/-- A reader of predicates: what waits outside of the parentheses that are open, what waits inside
of them, and what was read last. -/
structure Reader where
  outer : List Pending := []
  here : Pending := {}
  phase : Phase := .operator
  deriving DecidableEq, Repr

namespace Reader

def step (r : Reader) (w : Word) : Option Reader :=
  match r.phase, w with
  | .operator, .name text => some { r with phase := .operand (.name text) }
  | .operator, .opening => some { outer := r.here :: r.outer }
  | .operator, .not => some { r with here.negations := r.here.negations + 1 }
  | .operand f, .is => some { r with phase := .test f }
  | .operand f, .and =>
    some ⟨r.outer, { disjunct := r.here.disjunct, conjunct := some (r.here.conjoin f) }, .operator⟩
  | .operand f, .or => some ⟨r.outer, { disjunct := some (r.here.disjoin f) }, .operator⟩
  | .operand f, .closing =>
    match r.outer with
    | [] => none
    | l :: outer => some ⟨outer, l, .operand (.group (r.here.disjoin f))⟩
  | .test f, .null => some { r with phase := .operand (.isNull f) }
  | .test f, .not => some { r with phase := .testNot f }
  | .testNot f, .null => some { r with phase := .operand (.isNotNull f) }
  | _, _ => none

def run (r : Reader) (ws : List Word) : Option Reader := ws.foldlM step r

theorem run_cons (r : Reader) (w : Word) (ws : List Word) :
    run r (w :: ws) = (step r w).bind fun s => run s ws := by
  simp [run]

theorem run_append (r : Reader) (ws us : List Word) :
    run r (ws ++ us) = (run r ws).bind fun s => run s us := by
  simp [run]

/-- The predicate is read as an operand, whatever waits for it. -/
def ReadsOperand (f : Formula) : Prop :=
  ∀ outer l, run ⟨outer, l, .operator⟩ f.words = some ⟨outer, l, .operand f⟩

def ReadsNegation (f : Formula) : Prop :=
  ∀ outer l, ∃ n t, run ⟨outer, l, .operator⟩ f.words =
    some ⟨outer, { l with negations := l.negations + n }, .operand t⟩ ∧ negate n t = f

def ReadsConjunction (f : Formula) : Prop :=
  ∀ outer o, ∃ l t, run ⟨outer, { disjunct := o }, .operator⟩ f.words =
    some ⟨outer, l, .operand t⟩ ∧ l.disjunct = o ∧ l.conjoin t = f

def ReadsDisjunction (f : Formula) : Prop :=
  ∀ outer, ∃ l t, run ⟨outer, {}, .operator⟩ f.words = some ⟨outer, l, .operand t⟩ ∧
    l.disjoin t = f

theorem ReadsOperand.negation {f : Formula} (h : ReadsOperand f) : ReadsNegation f :=
  fun outer l => ⟨0, f, h outer l, rfl⟩

theorem ReadsNegation.conjunction {f : Formula} (h : ReadsNegation f) : ReadsConjunction f := by
  intro outer o
  obtain ⟨n, t, hrun, ht⟩ := h outer { disjunct := o }
  exact ⟨_, t, hrun, rfl, by simpa [Pending.conjoin] using ht⟩

theorem ReadsConjunction.disjunction {f : Formula} (h : ReadsConjunction f) :
    ReadsDisjunction f := by
  intro outer
  obtain ⟨l, t, hrun, hl, ht⟩ := h outer none
  exact ⟨l, t, hrun, by rw [Pending.disjoin, hl, ht]⟩

theorem ReadsDisjunction.group {f : Formula} (h : ReadsDisjunction f) :
    ReadsOperand (.group f) := by
  intro outer l
  obtain ⟨k, t, hrun, ht⟩ := h (l :: outer)
  rw [Formula.words, run_cons]
  show run ⟨l :: outer, {}, .operator⟩ (f.words ++ [.closing]) = _
  rw [run_append, hrun, ← ht]
  rfl

theorem ReadsOperand.isNull {f : Formula} (h : ReadsOperand f) : ReadsOperand (.isNull f) := by
  intro outer l
  rw [Formula.words, run_append, h outer l]
  rfl

theorem ReadsOperand.isNotNull {f : Formula} (h : ReadsOperand f) :
    ReadsOperand (.isNotNull f) := by
  intro outer l
  rw [Formula.words, run_append, h outer l]
  rfl

theorem ReadsNegation.not {f : Formula} (h : ReadsNegation f) : ReadsNegation (.not f) := by
  intro outer l
  obtain ⟨n, t, hrun, ht⟩ := h outer { l with negations := l.negations + 1 }
  refine ⟨n + 1, t, ?_, by rw [negate, ht]⟩
  rw [Formula.words, run_cons, Nat.add_comm n 1, ← Nat.add_assoc]
  exact hrun

theorem ReadsConjunction.and {f g : Formula} (hf : ReadsConjunction f) (hg : ReadsNegation g) :
    ReadsConjunction (.and f g) := by
  intro outer o
  obtain ⟨l, t, hrun, hl, ht⟩ := hf outer o
  obtain ⟨n, u, hrun', hu⟩ := hg outer { disjunct := o, conjunct := some f }
  refine ⟨{ disjunct := o, conjunct := some f, negations := n }, u, ?_, rfl, ?_⟩
  · rw [Nat.zero_add] at hrun'
    rw [Formula.words, run_append, hrun, Option.bind_some, run_cons, ← hrun', ← hl, ← ht]
    rfl
  · rw [Pending.conjoin, hu]

theorem ReadsDisjunction.or {f g : Formula} (hf : ReadsDisjunction f) (hg : ReadsConjunction g) :
    ReadsDisjunction (.or f g) := by
  intro outer
  obtain ⟨l, t, hrun, ht⟩ := hf outer
  obtain ⟨k, u, hrun', hk, hu⟩ := hg outer (some f)
  refine ⟨k, u, ?_, by rw [Pending.disjoin, hk, hu]⟩
  rw [Formula.words, run_append, hrun, Option.bind_some, run_cons, ← hrun', ← ht]
  rfl

/-- How a predicate is read depends on how tightly it binds. -/
structure ReadsByLevel (f : Formula) : Prop where
  operand : 3 ≤ f.level → ReadsOperand f
  negation : 2 ≤ f.level → ReadsNegation f
  conjunction : 1 ≤ f.level → ReadsConjunction f
  disjunction : ReadsDisjunction f

namespace ReadsByLevel

theorem of_operand {f : Formula} (h : ReadsOperand f) : ReadsByLevel f :=
  ⟨fun _ => h, fun _ => h.negation, fun _ => h.negation.conjunction,
    h.negation.conjunction.disjunction⟩

theorem of_negation {f : Formula} (hf : f.level = 2) (h : ReadsNegation f) : ReadsByLevel f :=
  ⟨fun hl => by omega, fun _ => h, fun _ => h.conjunction, h.conjunction.disjunction⟩

theorem of_conjunction {f : Formula} (hf : f.level = 1) (h : ReadsConjunction f) :
    ReadsByLevel f :=
  ⟨fun hl => by omega, fun hl => by omega, fun _ => h, h.disjunction⟩

theorem of_disjunction {f : Formula} (hf : f.level = 0) (h : ReadsDisjunction f) :
    ReadsByLevel f :=
  ⟨fun hl => by omega, fun hl => by omega, fun hl => by omega, h⟩

theorem of_proper {f : Formula} (hf : f.Proper) : ReadsByLevel f := by
  -- Each operator needs of its parts to be read at the level that precedence grants them.
  induction f with
  | name text => exact of_operand fun outer l => rfl
  | group f ih => exact of_operand (ih hf).disjunction.group
  | isNull f ih => exact of_operand ((ih hf.1).operand hf.2).isNull
  | isNotNull f ih => exact of_operand ((ih hf.1).operand hf.2).isNotNull
  | not f ih => exact of_negation rfl ((ih hf.1).negation hf.2).not
  | and f g ihf ihg =>
    exact of_conjunction rfl
      (((ihf hf.1.1).conjunction hf.1.2).and ((ihg hf.2.1).negation hf.2.2))
  | or f g ihf ihg =>
    exact of_disjunction rfl ((ihf hf.1).disjunction.or ((ihg hf.2.1).conjunction hf.2.2))

end ReadsByLevel

def result? (r : Reader) : Option Formula :=
  match r.outer, r.phase with
  | [], .operand f => some (r.here.disjoin f)
  | _, _ => none

end Reader

def parse (ws : List Word) : Option Formula := (Reader.run {} ws).bind Reader.result?

theorem parse_words {f : Formula} (hf : f.Proper) : parse f.words = some f := by
  obtain ⟨l, t, hrun, ht⟩ := (Reader.ReadsByLevel.of_proper hf).disjunction []
  rw [parse, hrun, Option.bind_some, ← ht]
  rfl

example : parse [.not, .name "a", .is, .null, .or, .name "b", .and, .name "c"] =
    some (.or (.not (.isNull (.name "a"))) (.and (.name "b") (.name "c"))) := rfl

namespace Formula

theorem eq_of_words_eq {f g : Formula} (hf : f.Proper) (hg : g.Proper) (h : f.words = g.words) :
    f = g := by
  have hparse : some f = some g := by rw [← parse_words hf, h, parse_words hg]
  exact Option.some.inj hparse

/-- No predicate starts with a case. -/
theorem words_ne_case {f : Formula} (hf : f.Proper) (ws : List Word) :
    f.words ≠ .caseWord :: ws := by
  intro h
  have hparse := parse_words hf
  rw [h] at hparse
  cases hparse

end Formula

end CleanSql.Predicate
