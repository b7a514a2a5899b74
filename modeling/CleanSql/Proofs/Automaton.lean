import Mathlib.Data.List.Basic
import Mathlib.Data.List.Induction

/-!
# Readers that go from state to state

Type names and numbers are read character by character, and a reader that has failed stays so. What
one step does to the texts of a state is said for each reader by itself; that a whole text is then
one of the state that it leads to is the same for all of them (`language_foldl`).
-/
namespace CleanSql.Automaton

variable {σ : Type} {step : σ → Char → σ} {s failed : σ} {cs : List Char}

theorem foldl_same {kind : Char → Bool} (hs : ∀ c, kind c → step s c = s)
    (h : ∀ c ∈ cs, kind c) : cs.foldl step s = s := by
  induction cs with
  | nil => rfl
  | cons c cs ih =>
    rw [List.foldl_cons, hs c (h c (by simp))]
    exact ih fun d hd => h d (by simp [hd])

/-- In a text that does not fail a reader, no character fails it wherever it comes up. -/
theorem exists_step_ne_failed (hf : ∀ c, step failed c = failed)
    (h : cs.foldl step s ≠ failed) : ∀ c ∈ cs, ∃ r, step r c ≠ failed := by
  induction cs generalizing s with
  | nil => simp
  | cons c cs ih =>
    rw [List.foldl_cons] at h
    refine List.forall_mem_cons.mpr ⟨⟨s, fun hc => ?_⟩, ih h⟩
    rw [hc, List.foldl_fixed' hf] at h
    exact h rfl

/-- If each step takes the texts of a state to those of the next, every text is one of the state
that it leads to. -/
theorem language_foldl {L : σ → List Char → Prop} {start : σ} (hstart : L start [])
    (hstep : ∀ {s cs c}, L s cs → L (step s c) (cs ++ [c])) : L (cs.foldl step start) cs := by
  induction cs using List.reverseRecOn with
  | nil => exact hstart
  | append_singleton cs c ih =>
    rw [List.foldl_append, List.foldl_cons, List.foldl_nil]
    exact hstep ih

end CleanSql.Automaton
