import Mathlib.Data.List.Basic
import CleanSql.Report.Text

/-!
# Control sequences of the terminal

A control sequence is an escape character, a bracket, numbers and an `m`. If a text is put together
from painted and plain texts, then without its control sequences it is the same text put together
without any ink: this is kept by whatever texts are put together of (`Ink.Shows`).
-/
namespace CleanSql

namespace Ink

/-- The characters between the bracket and the `m` of a control sequence. -/
def isParameter (c : Char) : Bool := c.isDigit || c = ';'

def behindControl? : List Char → Option (List Char)
  | '\x1b' :: '[' :: cs =>
    match cs.dropWhile isParameter with
    | 'm' :: rest => some rest
    | _ => none
  | _ => none

theorem length_lt_of_behindControl? {cs rest : List Char} (h : behindControl? cs = some rest) :
    rest.length < cs.length := by
  unfold behindControl? at h
  split at h
  · next cs =>
    split at h
    · next hdrop =>
      cases h
      have hle := (List.dropWhile_sublist isParameter (l := cs)).length_le
      rw [hdrop, List.length_cons] at hle
      simp only [List.length_cons]
      omega
    · cases h
  · cases h

def strip (cs : List Char) : List Char :=
  match _h : behindControl? cs with
  | some rest => strip rest
  | none =>
    match cs with
    | [] => []
    | c :: cs => c :: strip cs
termination_by cs.length
decreasing_by
  · exact length_lt_of_behindControl? _h
  · exact Nat.lt_succ_self _

/-- A text that no control sequence can begin in. -/
def IsPlain (s : String) : Prop := '\x1b' ∉ s.toList

instance (s : String) : Decidable (IsPlain s) := inferInstanceAs (Decidable (¬ _))

section Plain

variable {a b : String}

theorem isPlain_empty : IsPlain "" := by decide

theorem IsPlain.append (ha : IsPlain a) (hb : IsPlain b) : IsPlain (a ++ b) := by
  rw [IsPlain, String.toList_append, List.mem_append, not_or]
  exact ⟨ha, hb⟩

theorem isPlain_ofList {cs : List Char} (h : '\x1b' ∉ cs) : IsPlain (String.ofList cs) := by
  rwa [IsPlain, String.toList_ofList]

theorem isPlain_toString (n : Nat) : IsPlain (toString n) := by
  intro hmem
  rw [Nat.toString_eq_ofList_toDigits, String.toList_ofList] at hmem
  have hdigit : ('\x1b' : Char).isDigit :=
    Nat.isDigit_of_mem_toDigits (by decide) (by decide) hmem
  cases hdigit

theorem isPlain_intercalate {separator : String} (h : IsPlain separator) {texts : List String}
    (htexts : ∀ s ∈ texts, IsPlain s) : IsPlain (String.intercalate separator texts) := by
  induction texts with
  | nil => exact isPlain_empty
  | cons s texts ih =>
    obtain ⟨hs, hrest⟩ := List.forall_mem_cons.mp htexts
    by_cases hne : texts = []
    · rwa [hne, String.intercalate_singleton]
    · rw [String.intercalate_cons_of_ne_nil hne]
      exact (hs.append h).append (ih hrest)

end Plain

theorem strip_nil : strip [] = [] := by
  rw [strip.eq_def]
  rfl

theorem strip_cons_of_ne {c : Char} (h : c ≠ '\x1b') (cs : List Char) :
    strip (c :: cs) = c :: strip cs := by
  have hnone : behindControl? (c :: cs) = none := by
    unfold behindControl?
    split
    · next heq => exact absurd (List.cons.inj heq).1 h
    · rfl
  rw [strip]
  split
  · next hsome => cases hnone.symm.trans hsome
  · rfl

theorem strip_of_behindControl? {cs rest : List Char} (h : behindControl? cs = some rest) :
    strip cs = strip rest := by
  rw [strip]
  split
  · next hsome =>
    cases h.symm.trans hsome
    rfl
  · next hnone => cases h.symm.trans hnone

theorem strip_append_of_isPlain {s : String} (h : IsPlain s) (rest : List Char) :
    strip (s.toList ++ rest) = s.toList ++ strip rest := by
  unfold IsPlain at h
  generalize s.toList = cs at h
  induction cs with
  | nil => rfl
  | cons c cs ih =>
    rw [List.mem_cons, not_or] at h
    rw [List.cons_append, strip_cons_of_ne (Ne.symm h.1), ih h.2, List.cons_append]

theorem strip_start_append (ink : Ink) (cs : List Char) :
    strip (ink.start.toList ++ cs) = strip cs := by
  refine strip_of_behindControl? ?_
  cases ink <;> rfl

theorem strip_stop_append (cs : List Char) : strip (stop.toList ++ cs) = strip cs :=
  strip_of_behindControl? rfl

theorem addAfter_of_not_mem {w : Char} {word addition cs : List Char} (h : w ∉ cs) :
    Text.addAfter w word addition cs = cs := by
  induction cs with
  | nil =>
    rw [Text.addAfter.eq_def]
    rfl
  | cons c cs ih =>
    rw [List.mem_cons, not_or] at h
    have hnone : Text.dropWord? (w :: word) (c :: cs) = none := if_neg h.1
    rw [Text.addAfter]
    split
    · next hsome => cases hnone.symm.trans hsome
    · exact congrArg (c :: ·) (ih h.2)

/-- Two texts of which the second is the first without its control sequences, whatever stands
behind them. -/
def Shows (painted plain : String) : Prop :=
  ∀ rest, strip (painted.toList ++ rest) = plain.toList ++ strip rest

namespace Shows

variable {a b a' b' : String}

theorem refl (h : IsPlain a) : Shows a a := strip_append_of_isPlain h

theorem append (h : Shows a b) (h' : Shows a' b') : Shows (a ++ a') (b ++ b') := by
  intro rest
  rw [String.toList_append, List.append_assoc, h, h', String.toList_append, List.append_assoc]

theorem strip_eq (h : Shows a b) : strip a.toList = b.toList := by
  have hstrip := h []
  rwa [List.append_nil, strip_nil, List.append_nil] at hstrip

theorem join {α : Type} {f g : α → String} {as : List α}
    (h : ∀ a ∈ as, Shows (f a) (g a)) :
    Shows (String.join (as.map f)) (String.join (as.map g)) := by
  induction as with
  | nil => exact refl isPlain_empty
  | cons a as ih =>
    obtain ⟨ha, has⟩ := List.forall_mem_cons.mp h
    rw [List.map_cons, List.map_cons, String.join_cons, String.join_cons]
    exact ha.append (ih has)

theorem elim {α : Type} {f g : α → String} {o : Option α}
    (h : ∀ a ∈ o, Shows (f a) (g a)) :
    Shows (o.elim "" f) (o.elim "" g) := by
  cases o with
  | none => exact refl isPlain_empty
  | some a => exact h a rfl

theorem paint (ink : Ink) (colored : Bool) {text : String} (h : IsPlain text) :
    Shows (ink.paint colored text) text := by
  cases colored with
  | false => exact refl h
  | true =>
    intro rest
    rw [Ink.paint, if_pos rfl, addAfter_of_not_mem h, String.ofList_toList, String.toList_append,
      String.toList_append, List.append_assoc, List.append_assoc, strip_start_append,
      strip_append_of_isPlain h, strip_stop_append]

end Shows

end Ink

end CleanSql
