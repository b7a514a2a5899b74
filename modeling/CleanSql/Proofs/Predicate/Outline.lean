import CleanSql.Proofs.Predicate.NullTest

/-!
# For which expressions null tests hold

Whether the null tests that are written for an expression hold can only be told from its operators
outside of parentheses if its operands may be anything. They do where one operand stands under an
even number of negations (`Formula.eval_testLast`); in every other case there is an expression with
the same operators for which they do not (`exists_lost`, `exists_misflagged`).
-/
namespace CleanSql.Predicate

namespace Formula

def outline : Formula → Formula
  | not f => not f.outline
  | and f g => and f.outline g.outline
  | or f g => or f.outline g.outline
  | name _ | group _ | isNull _ | isNotNull _ => name ""

/-- Whether the number of negations over the one operand is even; nothing if there are more
operands. -/
def sense? : Formula → Option Bool
  | not f => f.sense?.map fun b => !b
  | and _ _ | or _ _ => none
  | name _ | group _ | isNull _ | isNotNull _ => some true

theorem level_outline (f : Formula) : f.outline.level = f.level := by
  cases f <;> rfl

theorem sense?_outline (f : Formula) : f.outline.sense? = f.sense? := by
  induction f with
  | not f ih => rw [outline, sense?, sense?, ih]
  | _ => rfl

theorem exists_sense {f : Formula} (hf : f.Proper) (hl : 2 ≤ f.level) :
    ∃ b, f.sense? = some b := by
  induction f with
  | name _ | group _ | isNull _ | isNotNull _ => exact ⟨true, rfl⟩
  | not f ih =>
    obtain ⟨b, hb⟩ := ih hf.1 hf.2
    exact ⟨!b, by rw [sense?, hb]; rfl⟩
  | and _ _ | or _ _ => exact absurd hl (by simp [level])

theorem sense?_ne_true {f : Formula} (hf : f.Proper) (hs : f.sense? ≠ some true) :
    f.sense? = some false ∨ (∃ g h, f = and g h) ∨ ∃ g h, f = or g h := by
  cases f with
  | name _ | group _ | isNull _ | isNotNull _ => exact absurd rfl hs
  | not f =>
    obtain ⟨b, hb⟩ := exists_sense hf (Nat.le_refl 2)
    rw [hb] at hs ⊢
    exact .inl (by simpa using hs)
  | and g h => exact .inr (.inl ⟨g, h, rfl⟩)
  | or g h => exact .inr (.inr ⟨g, h, rfl⟩)

/-- A test of the last operand under an even number of negations says of the whole what it should,
and under an odd number the opposite. -/
theorem eval_testLast (t : Test) (v : String → Truth) {f : Formula} {b : Bool}
    (hb : f.sense? = some b) : (f.testLast t).eval v = some (t.holds (f.eval v) == b) := by
  induction f generalizing b with
  | name _ | group _ | isNull _ | isNotNull _ =>
    cases hb
    rw [beq_true, ← Test.eval_apply]
    rfl
  | not f ih =>
    obtain ⟨a, ha, rfl⟩ := Option.map_eq_some_iff.mp hb
    rw [testLast, eval, eval, Test.holds_not, ih ha]
    cases a <;> simp [Truth.not]
  | and _ _ | or _ _ => cases hb

end Formula

def Word.text : Word → String
  | name text => text
  | opening => "("
  | closing => ")"
  | not => "NOT"
  | and => "AND"
  | or => "OR"
  | is => "IS"
  | null => "NULL"
  | caseWord => "CASE"
  | whenWord => "WHEN"
  | thenWord => "THEN"
  | elseWord => "ELSE"
  | endWord => "END"

def spaced (ws : List Word) : String := String.join (ws.map fun w => w.text ++ " ")

/-- The word is read as it is written. -/
def Legible (d : Dialect) (w : Word) : Prop := words d.profile w.text = some [w]

theorem words_spaced {ws : List Word} (h : ∀ w ∈ ws, Legible d w) :
    words d.profile (spaced ws) = some ws := by
  induction ws with
  | nil => rfl
  | cons w ws ih =>
    rw [List.forall_mem_cons] at h
    have hlist : (spaced (w :: ws)).toList = w.text.toList ++ ' ' :: (spaced ws).toList := by
      simp [spaced, String.join_cons]
    have hrest : scan d.profile .code [] (spaced ws).toList = some ws := ih h.2
    rw [words, hlist, scan_separator h.1 (c := ' ') rfl, hrest]
    rfl

/-- An expression with the same operators outside of parentheses, of words that can be read. -/
structure Variant (d : Dialect) (e f : Formula) : Prop where
  outline : f.outline = e.outline
  proper : f.Proper
  legible : ∀ w ∈ f.words, Legible d w

namespace Variant

variable {e e' f f' : Formula}

theorem level (h : Variant d e f) : f.level = e.level := by
  rw [← Formula.level_outline, h.outline, Formula.level_outline]

theorem sense (h : Variant d e f) : f.sense? = e.sense? := by
  rw [← Formula.sense?_outline, h.outline, Formula.sense?_outline]

theorem reads (h : Variant d e f) : Reads d.profile (spaced f.words) f :=
  ⟨words_spaced h.legible, h.proper⟩

theorem not (he : (Formula.not e).Proper) (h : Variant d e f) : Variant d (.not e) (.not f) where
  outline := by rw [Formula.outline, Formula.outline, h.outline]
  proper := ⟨h.proper, by rw [h.level]; exact he.2⟩
  legible := List.forall_mem_cons.mpr ⟨by cases d <;> rfl, h.legible⟩

theorem and (he : (Formula.and e e').Proper) (h : Variant d e f) (h' : Variant d e' f') :
    Variant d (.and e e') (.and f f') where
  outline := by rw [Formula.outline, Formula.outline, h.outline, h'.outline]
  proper := ⟨⟨h.proper, by rw [h.level]; exact he.1.2⟩, h'.proper, by rw [h'.level]; exact he.2.2⟩
  legible := List.forall_mem_append.mpr
    ⟨h.legible, List.forall_mem_cons.mpr ⟨by cases d <;> rfl, h'.legible⟩⟩

theorem or (he : (Formula.or e e').Proper) (h : Variant d e f) (h' : Variant d e' f') :
    Variant d (.or e e') (.or f f') where
  outline := by rw [Formula.outline, Formula.outline, h.outline, h'.outline]
  proper := ⟨h.proper, h'.proper, by rw [h'.level]; exact he.2.2⟩
  legible := List.forall_mem_append.mpr
    ⟨h.legible, List.forall_mem_cons.mpr ⟨by cases d <;> rfl, h'.legible⟩⟩

end Variant

def nulls : String → Truth := fun _ => none

def operand : Truth → Formula
  | none => .name "x"
  | some true => .isNull (.name "x")
  | some false => .isNotNull (.name "x")

theorem eval_operand (u : Truth) : (operand u).eval nulls = u := by
  rcases u with _ | _ | _ <;> rfl

theorem variant_operand (d : Dialect) (u : Truth) : Variant d (.name "x") (operand u) where
  outline := by rcases u with _ | _ | _ <;> rfl
  proper := by rcases u with _ | _ | _ <;> simp [operand, Formula.Proper, Formula.level]
  legible := by
    have hx : Legible d (.name "x") := by cases d <;> rfl
    have his : Legible d .is := by cases d <;> rfl
    have hnot : Legible d .not := by cases d <;> rfl
    have hnull : Legible d .null := by cases d <;> rfl
    rcases u with _ | _ | _ <;> simp [operand, Formula.words, hx, his, hnot, hnull]

theorem Variant.operand {e : Formula} (he : 3 ≤ e.level) (u : Truth) :
    Variant d e (operand u) := by
  have hx : e.outline = (Formula.name "x").outline := by
    cases e with
    | not _ | and _ _ | or _ _ => exact absurd he (by simp [Formula.level])
    | _ => rfl
  have h := variant_operand d u
  exact ⟨h.outline.trans hx.symm, h.proper, h.legible⟩

/-- Whatever the operators, operands can be found for any value. -/
theorem exists_value {e : Formula} (he : e.Proper) (u : Truth) :
    ∃ f, Variant d e f ∧ f.eval nulls = u := by
  induction e generalizing u with
  | name _ | group _ | isNull _ | isNotNull _ =>
    exact ⟨operand u, .operand (by simp only [Formula.level, Nat.le_refl]) u, eval_operand u⟩
  | not e ih =>
    obtain ⟨f, hf, hu⟩ := ih he.1 u.not
    refine ⟨.not f, hf.not he, ?_⟩
    rw [Formula.eval, hu]
    rcases u with _ | _ | _ <;> rfl
  | and e e' ih ih' =>
    obtain ⟨f, hf, hu⟩ := ih he.1.1 u
    obtain ⟨f', hf', hu'⟩ := ih' he.2.1 u
    refine ⟨.and f f', hf.and he hf', ?_⟩
    rw [Formula.eval, hu, hu']
    rcases u with _ | _ | _ <;> rfl
  | or e e' ih ih' =>
    obtain ⟨f, hf, hu⟩ := ih he.1 u
    obtain ⟨f', hf', hu'⟩ := ih' he.2.1 u
    refine ⟨.or f f', hf.or he hf', ?_⟩
    rw [Formula.eval, hu, hu']
    rcases u with _ | _ | _ <;> rfl

/-- A test that succeeds on the last operand although the expression is not true. -/
theorem exists_kept {e : Formula} (he : e.Proper) (hl : 1 ≤ e.level) :
    ∃ f, Variant d e f ∧ (f.testLast .isNotNull).eval nulls = some true ∧
      f.eval nulls ≠ some true := by
  have hsense {e : Formula} (he : e.Proper) (hl : 2 ≤ e.level) : ∃ f, Variant d e f ∧
      (f.testLast .isNotNull).eval nulls = some true ∧ f.eval nulls ≠ some true := by
    obtain ⟨b, hb⟩ := Formula.exists_sense he hl
    obtain ⟨f, hf, hv⟩ := exists_value (d := d) he (if b then some false else none)
    refine ⟨f, hf, ?_⟩
    rw [Formula.eval_testLast _ _ (hf.sense.trans hb), hv]
    cases b <;> exact ⟨rfl, nofun⟩
  cases e with
  | or _ _ => exact absurd hl (by simp [Formula.level])
  | and e e' =>
    obtain ⟨f, hf, hv⟩ := exists_value (d := d) he.1.1 (some true)
    obtain ⟨f', hf', htest, hv'⟩ := hsense he.2.1 he.2.2
    refine ⟨.and f f', hf.and he hf', ?_, ?_⟩
    · rw [Formula.testLast, Formula.eval, hv, htest]
      rfl
    · rw [Formula.eval, hv]
      revert hv'
      rcases f'.eval nulls with _ | _ | _ <;> simp [Truth.and]
  | name _ | group _ | isNull _ | isNotNull _ => exact hsense he (by simp [Formula.level])
  | not _ => exact hsense he (Nat.le_refl 2)

/-- Where the negations are odd in number or there are more operands than one, rows are lost or
kept wrongly for some operands. -/
theorem exists_lost {e : Formula} (he : e.Proper) (hs : e.sense? ≠ some true) :
    ∃ f, Variant d e f ∧
      ¬ ((f.testLast .isNotNull).eval nulls = some true ↔ f.eval nulls ≠ none) := by
  obtain hsense | ⟨e, e', rfl⟩ | ⟨e, e', rfl⟩ := Formula.sense?_ne_true he hs
  · obtain ⟨f, hf, hv⟩ := exists_value (d := d) he none
    refine ⟨f, hf, ?_⟩
    rw [Formula.eval_testLast _ _ (hf.sense.trans hsense), hv]
    simp [Test.holds]
  · -- A left side that is false is the value, but also makes the filter false.
    obtain ⟨f, hf, hv⟩ := exists_value (d := d) he.1.1 (some false)
    obtain ⟨f', hf', -⟩ := exists_value (d := d) he.2.1 none
    refine ⟨.and f f', hf.and he hf', ?_⟩
    rw [Formula.testLast, Formula.eval, Formula.eval, hv]
    simp [Truth.and]
  · -- A left side that is null leaves the filter to the test of the right side.
    obtain ⟨f, hf, hv⟩ := exists_value (d := d) he.1 none
    obtain ⟨f', hf', htest, hv'⟩ := exists_kept (d := d) he.2.1 he.2.2
    refine ⟨.or f f', hf.or he hf', ?_⟩
    rw [Formula.testLast, Formula.eval, Formula.eval, hv, htest]
    revert hv'
    rcases f'.eval nulls with _ | _ | _ <;> simp [Truth.or]

/-- And rows are flagged wrongly, or not flagged, for some operands. -/
theorem exists_misflagged {e : Formula} (he : e.Proper) (hs : e.sense? ≠ some true) :
    ∃ f, Variant d e f ∧
      ¬ ((f.testLast .isNull).eval nulls = some true ↔ f.eval nulls = none) := by
  obtain hsense | ⟨e, e', rfl⟩ | ⟨e, e', rfl⟩ := Formula.sense?_ne_true he hs
  · obtain ⟨f, hf, hv⟩ := exists_value (d := d) he none
    refine ⟨f, hf, ?_⟩
    rw [Formula.eval_testLast _ _ (hf.sense.trans hsense), hv]
    simp [Test.holds]
  · obtain ⟨f, hf, hv⟩ := exists_value (d := d) he.1.1 none
    obtain ⟨f', hf', hv'⟩ := exists_value (d := d) he.2.1 none
    refine ⟨.and f f', hf.and he hf', ?_⟩
    rw [Formula.testLast, Formula.eval, Formula.eval, hv, hv']
    rcases (f'.testLast .isNull).eval nulls with _ | _ | _ <;> simp [Truth.and]
  · obtain ⟨f, hf, hv⟩ := exists_value (d := d) he.1 (some true)
    obtain ⟨f', hf', -⟩ := exists_value (d := d) he.2.1 none
    refine ⟨.or f f', hf.or he hf', ?_⟩
    rw [Formula.testLast, Formula.eval, Formula.eval, hv]
    simp [Truth.or]

/-- The null tests of all expressions with the same operators outside of parentheses hold exactly
if these operators are an even number of negations over one operand. -/
theorem keepsValues_flagsNulls_iff (d : Dialect) {s₀ : String} {e₀ : Formula}
    (h : Reads d.profile s₀ e₀) :
    ((∀ s e, Reads d.profile s e → e.outline = e₀.outline → KeepsValues d s e) ↔
      e₀.sense? = some true) ∧
    ((∀ s e, Reads d.profile s e → e.outline = e₀.outline → FlagsNulls d s e) ↔
      e₀.sense? = some true) := by
  have hsense {e : Formula} (he : e.outline = e₀.outline) (hs : e₀.sense? = some true) :
      e.sense? = some true := by
    rw [← Formula.sense?_outline, he, Formula.sense?_outline, hs]
  refine ⟨⟨fun hall => ?_, fun hs s e hread he => ?_⟩, fun hall => ?_, fun hs s e hread he => ?_⟩
  · by_contra hs
    obtain ⟨f, hf, hlost⟩ := exists_lost (d := d) h.2 hs
    exact hlost ((keepsValues_iff hf.reads).mp (hall _ f hf.reads hf.outline) nulls)
  · refine (keepsValues_iff hread).mpr fun v => ?_
    rw [Formula.eval_testLast _ v (hsense he hs)]
    cases e.eval v <;> simp [Test.holds]
  · by_contra hs
    obtain ⟨f, hf, hflag⟩ := exists_misflagged (d := d) h.2 hs
    exact hflag ((hall _ f hf.reads hf.outline).testLast hf.reads nulls)
  · refine flagsNulls_of_testLast hread fun v => ?_
    rw [Formula.eval_testLast _ v (hsense he hs)]
    cases e.eval v <;> simp [Test.holds]

theorem keepsValues_flagsNulls_doubleNegation :
    Reads Dialect.tsql.profile "NOT not (a AND [b c]) "
      (.not (.not (.group (.and (.name "a") (.name "[b c]"))))) ∧
    KeepsValues .tsql "NOT not (a AND [b c]) "
      (.not (.not (.group (.and (.name "a") (.name "[b c]"))))) ∧
    FlagsNulls .tsql "NOT not (a AND [b c]) "
      (.not (.not (.group (.and (.name "a") (.name "[b c]"))))) := by
  have hread : Reads Dialect.tsql.profile "NOT not (a AND [b c]) "
      (.not (.not (.group (.and (.name "a") (.name "[b c]"))))) :=
    ⟨by decide, by simp [Formula.Proper, Formula.level]⟩
  have hiff := keepsValues_flagsNulls_iff .tsql hread
  exact ⟨hread, hiff.1.mpr rfl _ _ hread rfl, hiff.2.mpr rfl _ _ hread rfl⟩

/-- One negation is enough for rows with a value to be dropped. -/
theorem not_keepsValues_negation : ¬ KeepsValues .ansi "NOT a" (.not (.name "a")) := by
  have hread : Reads Dialect.ansi.profile "NOT a" (.not (.name "a")) :=
    ⟨by decide, by simp [Formula.Proper, Formula.level]⟩
  rw [keepsValues_iff hread]
  intro h
  have hfalse := (h fun _ => some true).mpr (by decide)
  cases hfalse

end CleanSql.Predicate
