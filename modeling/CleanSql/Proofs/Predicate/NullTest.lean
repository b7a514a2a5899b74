import CleanSql.Column.Compiled
import CleanSql.Proofs.Predicate.Formula

/-!
# Null tests of custom expressions

A test for null is written behind a custom expression without parentheses around it, so that it is
a test of the last operand of the expression (`reads_notNull`, `reads_nullFlag`). What that does to
rows and flags hangs on the value of the expression alone (`keepsValues_iff`,
`flagsNulls_of_testLast`).
-/
namespace CleanSql.Predicate

variable {p : Profile} {d : Dialect}

/-- The text is the predicate. -/
def Reads (p : Profile) (s : String) (f : Formula) : Prop := words p s = some f.words ∧ f.Proper

inductive Test where
  | isNull
  | isNotNull
  deriving DecidableEq, Repr

namespace Test

def apply : Test → Formula → Formula
  | isNull => .isNull
  | isNotNull => .isNotNull

def words : Test → List Word
  | isNull => [.is, .null]
  | isNotNull => [.is, .not, .null]

def holds : Test → Truth → Bool
  | isNull, u => u.isNone
  | isNotNull, u => u.isSome

theorem eval_apply (t : Test) (v : String → Truth) (f : Formula) :
    (t.apply f).eval v = some (t.holds (f.eval v)) := by
  cases t <;> rfl

theorem holds_not (t : Test) (u : Truth) : t.holds u.not = t.holds u := by
  cases t <;> cases u <;> rfl

end Test

namespace Formula

def testLast (t : Test) : Formula → Formula
  | not f => not (f.testLast t)
  | and f g => and f (g.testLast t)
  | or f g => or f (g.testLast t)
  | f => t.apply f

theorem level_testLast (t : Test) (f : Formula) : (f.testLast t).level = f.level := by
  cases f <;> cases t <;> rfl

theorem words_testLast (t : Test) (f : Formula) : (f.testLast t).words = f.words ++ t.words := by
  induction f with
  | name _ | group _ | isNull _ | isNotNull _ => cases t <;> rfl
  | not f ih => rw [testLast, words, words, ih, List.cons_append]
  | and f g _ ih => rw [testLast, words, words, ih, List.append_assoc, List.cons_append]
  | or f g _ ih => rw [testLast, words, words, ih, List.append_assoc, List.cons_append]

theorem Proper.testLast {f : Formula} (hf : f.Proper) (t : Test) : (f.testLast t).Proper := by
  induction f with
  | name _ => cases t <;> exact ⟨trivial, Nat.le_refl 3⟩
  | group f => cases t <;> exact ⟨hf, Nat.le_refl 3⟩
  | isNull f => cases t <;> exact ⟨hf, Nat.le_refl 3⟩
  | isNotNull f => cases t <;> exact ⟨hf, Nat.le_refl 3⟩
  | not f ih => exact ⟨ih hf.1, by rw [level_testLast]; exact hf.2⟩
  | and f g _ ih => exact ⟨hf.1, ih hf.2.1, by rw [level_testLast]; exact hf.2.2⟩
  | or f g _ ih => exact ⟨hf.1, ih hf.2.1, by rw [level_testLast]; exact hf.2.2⟩

end Formula

/-- What a flag says: a predicate, or a number that is one where a predicate is true. -/
inductive Flag where
  | truth (f : Formula)
  | number (f : Formula)
  deriving DecidableEq, Repr

namespace Flag

def words : Flag → List Word
  | truth f => f.words
  | number f =>
    .caseWord :: .whenWord :: (f.words ++ [.thenWord, .name "1", .elseWord, .name "0", .endWord])

def Proper : Flag → Prop
  | truth f | number f => f.Proper

/-- The value of a flag; one is true and zero is not. -/
def eval (v : String → Truth) : Flag → Truth
  | truth f => f.eval v
  | number f => some (f.eval v = some true)

theorem eq_of_words_eq {f g : Flag} (hf : f.Proper) (hg : g.Proper) (h : f.words = g.words) :
    f = g := by
  cases f with
  | truth f =>
    cases g with
    | truth g => rw [Formula.eq_of_words_eq hf hg h]
    | number g => exact absurd h (Formula.words_ne_case hf _)
  | number f =>
    cases g with
    | truth g => exact absurd h.symm (Formula.words_ne_case hg _)
    | number g =>
      have htail := (List.cons.inj (List.cons.inj h).2).2
      rw [Formula.eq_of_words_eq hf hg (List.append_cancel_right htail)]

end Flag

def ReadsFlag (p : Profile) (s : String) (f : Flag) : Prop := words p s = some f.words ∧ f.Proper

/-- A text is one flag at most. -/
theorem ReadsFlag.iff_eq {s : String} {f : Flag} (h : ReadsFlag p s f) (g : Flag) :
    ReadsFlag p s g ↔ g = f := by
  constructor
  · intro hg
    have hwords : some g.words = some f.words := by rw [← hg.1, h.1]
    exact Flag.eq_of_words_eq hg.2 h.2 (Option.some.inj hwords)
  · rintro rfl
    exact h

/-- And it is one predicate at most. -/
theorem Reads.iff_eq {s : String} {f : Formula} (h : Reads p s f) (g : Formula) :
    Reads p s g ↔ g = f := by
  have hflag : ReadsFlag p s (.truth f) := h
  rw [← Flag.truth.injEq]
  exact hflag.iff_eq (.truth g)

section Texts

variable {s : String} {e : Formula}

theorem Reads.trim (h : Reads p s e) : Reads p (Text.trim s) e := ⟨by rw [words_trim, h.1], h.2⟩

theorem Reads.trim_ne_empty (h : Reads p s e) : Text.trim s ≠ "" := by
  intro hs
  have hwords := h.trim.1
  rw [hs] at hwords
  have hparse := parse_words h.2
  rw [← Option.some.inj hwords] at hparse
  cases hparse

theorem reads_notNull (h : Reads d.profile s e) :
    Reads d.profile ("(" ++ d.profile.writeNotNull s ++ ")") (.group (e.testLast .isNotNull)) := by
  have hafter : words d.profile "IS NOT NULL)" = some [.is, .not, .null, .closing] := by
    cases d <;> rfl
  have hbefore : words d.profile "" = some [] := rfl
  have hwords := words_between h.1 (l := '(') rfl (r := ' ') rfl hbefore hafter
  refine ⟨?_, h.2.testLast _⟩
  have htext : "(" ++ d.profile.writeNotNull s ++ ")" =
      "" ++ String.singleton '(' ++ s ++ String.singleton ' ' ++ "IS NOT NULL)" := by
    rw [← String.toList_inj]
    simp [Profile.writeNotNull]
  rw [htext, hwords, Formula.words, Formula.words_testLast]
  simp [Test.words]

theorem reads_nullFlag (h : Reads d.profile s e) :
    ReadsFlag d.profile (d.profile.writeNullFlag s)
      (if d.profile.booleanValues then .truth (.group (e.testLast .isNull))
        else .number (e.testLast .isNull)) := by
  unfold Profile.writeNullFlag
  split
  · have hafter : words d.profile "IS NULL)" = some [.is, .null, .closing] := by cases d <;> rfl
    have hbefore : words d.profile "" = some [] := rfl
    have hwords := words_between h.1 (l := '(') rfl (r := ' ') rfl hbefore hafter
    refine ⟨?_, h.2.testLast _⟩
    have htext : "(" ++ s ++ " IS NULL)" =
        "" ++ String.singleton '(' ++ s ++ String.singleton ' ' ++ "IS NULL)" := by
      rw [← String.toList_inj]
      simp
    rw [htext, hwords, Flag.words, Formula.words, Formula.words_testLast]
    simp [Test.words]
  · have hbefore : words d.profile "CASE WHEN" = some [.caseWord, .whenWord] := by cases d <;> rfl
    have hafter : words d.profile "IS NULL THEN 1 ELSE 0 END" =
        some [.is, .null, .thenWord, .name "1", .elseWord, .name "0", .endWord] := by
      cases d <;> rfl
    have hwords := words_between h.1 (l := ' ') rfl (r := ' ') rfl hbefore hafter
    refine ⟨?_, h.2.testLast _⟩
    have htext : "CASE WHEN " ++ s ++ " IS NULL THEN 1 ELSE 0 END" =
        "CASE WHEN" ++ String.singleton ' ' ++ s ++ String.singleton ' ' ++
          "IS NULL THEN 1 ELSE 0 END" := by
      rw [← String.toList_inj]
      simp
    rw [htext, hwords, Flag.words, Formula.words_testLast]
    simp [Test.words]

end Texts

/-- A custom expression with what is done about missing values, and nothing else. -/
def customOnly (s : String) (strategy : NullStrategy) : Transformations where
  nullStrategy := strategy
  customExpression := s

section Columns

variable {s : String} {c : Column} {strategy : NullStrategy}

theorem malformations_customOnly : (customOnly s strategy).malformations = [] := rfl

theorem staged_customOnly (hs : Text.trim s ≠ "") (hc : c.transformations = customOnly s strategy) :
    (c.staged p).expression = Text.trim s := by
  have hcustom : (customOnly s strategy).customExpression? = some (Text.trim s) := if_neg hs
  have hstages : (customOnly s strategy).stages = [] := rfl
  rw [Column.staged, Column.startExpression, hc, hcustom, hstages]
  rfl

theorem rowFilter_customOnly (hs : Text.trim s ≠ "") (hc : c.transformations = customOnly s .drop) :
    (c.compile d).rowFilter = some ("(" ++ d.profile.writeNotNull (Text.trim s) ++ ")") := by
  have hcustom : (customOnly s .drop).customExpression? = some (Text.trim s) := if_neg hs
  have hdrop : c.dropPredicate d.profile = d.profile.writeNotNull (Text.trim s) := by
    rw [Column.dropPredicate, staged_customOnly hs hc, hc, hcustom]
    rfl
  have hpredicates : c.predicates d.profile = [d.profile.writeNotNull (Text.trim s)] := by
    rw [Column.predicates, hdrop, hc]
    rfl
  simp only [Column.compile, hc, malformations_customOnly, hpredicates]
  rfl

theorem flag_customOnly (hs : Text.trim s ≠ "") (hc : c.transformations = customOnly s .flag) :
    (c.compile d).flag = some ⟨flagName c.name, d.profile.writeNullFlag (Text.trim s)⟩ := by
  have hflag : c.flag? d.profile =
      some ⟨flagName c.name, d.profile.writeNullFlag (Text.trim s)⟩ := by
    rw [Column.flag?, staged_customOnly hs hc, hc]
    rfl
  simp only [Column.compile, hc, malformations_customOnly, hflag]
  rfl

end Columns

/-- Rows are kept exactly where the expression has a value. -/
def KeepsValues (d : Dialect) (s : String) (e : Formula) : Prop :=
  ∀ c : Column, c.transformations = customOnly s .drop →
    ∃ sql f, (c.compile d).rowFilter = some sql ∧ (∀ g, Reads d.profile sql g ↔ g = f) ∧
      ∀ v, f.eval v = some true ↔ e.eval v ≠ none

/-- The flag is true exactly where the expression is null, and it is never null itself. -/
def FlagsNulls (d : Dialect) (s : String) (e : Formula) : Prop :=
  ∀ c : Column, c.transformations = customOnly s .flag →
    ∃ flag f, (c.compile d).flag = some flag ∧
      (∀ g, ReadsFlag d.profile flag.expression g ↔ g = f) ∧
      ∀ v, (f.eval v = some true ↔ e.eval v = none) ∧ f.eval v ≠ none

section Values

variable {s : String} {e : Formula}

theorem keepsValues_iff (h : Reads d.profile s e) : KeepsValues d s e ↔
    ∀ v, (e.testLast .isNotNull).eval v = some true ↔ e.eval v ≠ none := by
  have hread := reads_notNull h.trim
  constructor
  · intro hk
    obtain ⟨sql, f, hsql, hf, hv⟩ := hk { name := "c", transformations := customOnly s .drop } rfl
    rw [rowFilter_customOnly h.trim_ne_empty rfl, Option.some.injEq] at hsql
    rw [← hsql] at hf
    rw [← (hf _).mp hread] at hv
    exact hv
  · intro hv c hc
    exact ⟨_, _, rowFilter_customOnly h.trim_ne_empty hc, hread.iff_eq, hv⟩

theorem flagsNulls_of_testLast (h : Reads d.profile s e)
    (hv : ∀ v, ((e.testLast .isNull).eval v = some true ↔ e.eval v = none) ∧
      (e.testLast .isNull).eval v ≠ none) : FlagsNulls d s e := by
  intro c hc
  refine ⟨_, _, flag_customOnly h.trim_ne_empty hc, (reads_nullFlag h.trim).iff_eq, fun v => ?_⟩
  split
  · exact hv v
  · refine ⟨?_, nofun⟩
    rw [← (hv v).1]
    simp [Flag.eval]

theorem FlagsNulls.testLast (hk : FlagsNulls d s e) (h : Reads d.profile s e)
    (v : String → Truth) : (e.testLast .isNull).eval v = some true ↔ e.eval v = none := by
  obtain ⟨flag, f, hflag, hf, hv⟩ := hk { name := "c", transformations := customOnly s .flag } rfl
  rw [flag_customOnly h.trim_ne_empty rfl, Option.some.injEq] at hflag
  rw [← hflag] at hf
  rw [← (hv v).1, ← (hf _).mp (reads_nullFlag h.trim)]
  split
  · rfl
  · simp [Flag.eval]

end Values

end CleanSql.Predicate
