import Mathlib.Data.List.Basic
import Mathlib.Data.Nat.Find

/-!
# Parts of a text

The parts of a text between the occurrences of a word, which are taken from left to right so that
none overlaps another. The part at a place is what is behind the last occurrence in all parts up to
it only if the word occurs nowhere across the seam (`afterLast_upTo_eq_part_iff`); beyond the last
place what is found is empty only if the text is or ends in the word
(`afterLast_upTo_eq_nil_iff`).
-/
namespace CleanSql.Text

section Occurrences

variable {word text : List Char}

theorem dropInfix?_eq_some_iff {before behind : List Char} :
    text.dropInfix? word = some (before, behind) ↔ text = before ++ word ++ behind ∧
      ∀ a b, text = a ++ word ++ b → before.length ≤ a.length := by
  rw [List.dropInfix?_eq_some_iff]
  simp only [beq_iff_eq, ge_iff_le, exists_eq_right]
  refine and_congr_right fun _ => ⟨fun h a b => (h a word b · rfl), ?_⟩
  rintro h a _ b hab rfl
  exact h a b hab

theorem dropInfix?_eq_none_iff : text.dropInfix? word = none ↔ ¬ word <:+: text := by
  classical
  constructor
  · rintro h ⟨a, b, hab⟩
    have hex : ∃ n a b, text = a ++ word ++ b ∧ a.length = n := ⟨_, a, b, hab.symm, rfl⟩
    obtain ⟨before, behind, htext, hlength⟩ := Nat.find_spec hex
    have hsome : text.dropInfix? word = some (before, behind) :=
      dropInfix?_eq_some_iff.mpr ⟨htext, fun a b hab =>
        hlength ▸ Nat.find_min' hex ⟨a, b, hab, rfl⟩⟩
    cases h.symm.trans hsome
  · intro h
    by_contra hne
    obtain ⟨⟨before, behind⟩, hsome⟩ := Option.ne_none_iff_exists'.mp hne
    exact h ⟨before, behind, (dropInfix?_eq_some_iff.mp hsome).1.symm⟩

/-- What is before the first occurrence of a word does not have the word. -/
theorem not_isInfix_before {before behind : List Char}
    (h : text.dropInfix? word = some (before, behind)) (hword : word ≠ []) :
    ¬ word <:+: before := by
  obtain ⟨htext, hfirst⟩ := dropInfix?_eq_some_iff.mp h
  rintro ⟨a, b, hab⟩
  have hle := hfirst a (b ++ word ++ behind) (by rw [htext, ← hab]; simp only [List.append_assoc])
  have hpositive := List.length_pos_iff.mpr hword
  rw [← hab, List.length_append, List.length_append] at hle
  omega

/-- What is behind the last occurrence of a word; all if there is none. -/
def afterLast (word text : List Char) : List Char :=
  match text.reverse.dropInfix? word.reverse with
  | some (behind, _) => behind.reverse
  | none => text

theorem afterLast_of_not_isInfix (h : ¬ word <:+: text) : afterLast word text = text := by
  have hnone : text.reverse.dropInfix? word.reverse = none := by
    rwa [dropInfix?_eq_none_iff, List.reverse_infix]
  rw [afterLast, hnone]

theorem afterLast_spec (h : word <:+: text) :
    (∃ before, text = before ++ word ++ afterLast word text) ∧
      ∀ a b, text = a ++ word ++ b → (afterLast word text).length ≤ b.length := by
  have hne : text.reverse.dropInfix? word.reverse ≠ none := by
    rwa [ne_eq, dropInfix?_eq_none_iff, not_not, List.reverse_infix]
  obtain ⟨⟨behind, before⟩, hsome⟩ := Option.ne_none_iff_exists'.mp hne
  obtain ⟨htext, hfirst⟩ := dropInfix?_eq_some_iff.mp hsome
  have hafter : afterLast word text = behind.reverse := by
    rw [afterLast, hsome]
  rw [hafter]
  refine ⟨⟨before.reverse, ?_⟩, fun a b hab => ?_⟩
  · simpa using congrArg List.reverse htext
  · have hle := hfirst b.reverse a.reverse (by rw [hab]; simp)
    simpa using hle

/-- An occurrence is the last one if none begins inside of it or behind it. -/
theorem afterLast_append_eq_iff {w : Char} {word : List Char} (before behind : List Char) :
    afterLast (w :: word) (before ++ (w :: word) ++ behind) = behind ↔
      ¬ (w :: word) <:+: word ++ behind := by
  have hinfix : (w :: word) <:+: before ++ (w :: word) ++ behind := ⟨before, behind, rfl⟩
  obtain ⟨⟨a, ha⟩, hlast⟩ := afterLast_spec hinfix
  generalize afterLast (w :: word) (before ++ (w :: word) ++ behind) = last at ha hlast ⊢
  constructor
  · rintro rfl ⟨u, v, huv⟩
    have hlater : before ++ w :: word ++ last = (before ++ w :: u) ++ (w :: word) ++ v := by
      rw [List.append_assoc, List.cons_append, ← huv]
      simp
    have hle := hlast _ _ hlater
    have hlength := congrArg List.length huv
    simp only [List.length_append, List.length_cons] at hlength
    omega
  · intro hnot
    have hle := hlast before behind rfl
    rw [List.append_assoc, List.append_assoc, List.append_eq_append_iff] at ha
    obtain ⟨t, rfl, ht⟩ | ⟨t, rfl, ht⟩ := ha
    · cases t with
      | nil => exact (List.append_cancel_left ht).symm
      | cons x t =>
        -- The last occurrence begins inside of this one or behind it.
        rw [List.cons_append, List.cons_append, List.cons.injEq] at ht
        exact absurd ⟨t, last, by rw [ht.2, List.append_assoc]⟩ hnot
    · have hlength := congrArg List.length ht
      simp only [List.length_append] at hlength
      obtain rfl : t = [] := List.length_eq_zero_iff.mp (by omega)
      exact List.append_cancel_left ht

theorem afterLast_eq_nil_iff {w : Char} {word text : List Char} :
    afterLast (w :: word) text = [] ↔ text = [] ∨ (w :: word) <:+ text := by
  by_cases h : (w :: word) <:+: text
  · obtain ⟨⟨a, ha⟩, hlast⟩ := afterLast_spec h
    constructor
    · intro hnil
      rw [hnil, List.append_nil] at ha
      exact .inr ⟨a, ha.symm⟩
    · rintro (rfl | ⟨b, hb⟩)
      · cases List.eq_nil_of_infix_nil h
      · have hle := hlast b [] (by rw [List.append_nil, hb])
        exact List.length_eq_zero_iff.mp (Nat.le_zero.mp hle)
  · rw [afterLast_of_not_isInfix h]
    exact (or_iff_left fun hsuffix => h hsuffix.isInfix).symm

end Occurrences

section Parts

variable {w : Char} {word text : List Char}

/-- The parts of a text between the occurrences of a word that begins with `w`, from left to
right. -/
def parts (w : Char) (word text : List Char) : List (List Char) :=
  match _h : text.dropInfix? (w :: word) with
  | some (before, behind) => before :: parts w word behind
  | none => [text]
termination_by text.length
decreasing_by
  have htext := congrArg List.length (dropInfix?_eq_some_iff.mp _h).1
  simp only [List.length_append, List.length_cons] at htext
  omega

/-- What is before the occurrence of a word with a number counted from one; all if there are
fewer. -/
def upTo (word : List Char) : Nat → List Char → List Char
  | 0, _ => []
  | n + 1, text =>
    match text.dropInfix? word with
    | some (before, behind) => if n = 0 then before else before ++ word ++ upTo word n behind
    | none => text

theorem parts_ne_nil : parts w word text ≠ [] := by
  rw [parts]
  split <;> exact List.cons_ne_nil _ _

theorem intercalate_parts : (w :: word).intercalate (parts w word text) = text := by
  fun_induction parts w word text with
  | case1 text before behind h ih =>
    rw [List.intercalate_cons_of_ne_nil parts_ne_nil, ih]
    exact (dropInfix?_eq_some_iff.mp h).1.symm
  | case2 text h => exact List.intercalate_singleton

/-- No part has the word. -/
theorem not_isInfix_part : ∀ part ∈ parts w word text, ¬ (w :: word) <:+: part := by
  fun_induction parts w word text with
  | case1 text before behind h ih =>
    exact List.forall_mem_cons.mpr ⟨not_isInfix_before h (List.cons_ne_nil _ _), ih⟩
  | case2 text h => exact List.forall_mem_singleton.mpr (dropInfix?_eq_none_iff.mp h)

theorem parts_of_eq_some {before behind : List Char}
    (h : text.dropInfix? (w :: word) = some (before, behind)) :
    parts w word text = before :: parts w word behind := by
  rw [parts]
  split
  · next hsome =>
    cases h.symm.trans hsome
    rfl
  · next hnone => cases h.symm.trans hnone

theorem parts_of_eq_none (h : text.dropInfix? (w :: word) = none) :
    parts w word text = [text] := by
  rw [parts]
  split
  · next hsome => cases h.symm.trans hsome
  · rfl

theorem upTo_eq (n : Nat) : upTo (w :: word) (n + 1) text =
    (w :: word).intercalate ((parts w word text).take (n + 1)) := by
  induction n generalizing text with
  | zero =>
    rw [upTo]
    cases h : text.dropInfix? (w :: word) with
    | none =>
      rw [parts_of_eq_none h, List.take_succ_cons, List.take_nil, List.intercalate_singleton]
    | some r =>
      rw [parts_of_eq_some h, List.take_succ_cons, List.take_zero, List.intercalate_singleton]
      rfl
  | succ n ih =>
    rw [upTo]
    cases h : text.dropInfix? (w :: word) with
    | none =>
      rw [parts_of_eq_none h, List.take_succ_cons, List.take_nil, List.intercalate_singleton]
    | some r =>
      have hne : (parts w word r.2).take (n + 1) ≠ [] := by
        simp [parts_ne_nil]
      rw [parts_of_eq_some h, List.take_succ_cons, List.intercalate_cons_of_ne_nil hne, ← ih]
      rfl

theorem intercalate_concat {parts : List (List Char)} (h : parts ≠ []) (last : List Char) :
    word.intercalate (parts ++ [last]) = word.intercalate parts ++ word ++ last := by
  induction parts with
  | nil => exact absurd rfl h
  | cons part parts ih =>
    cases parts with
    | nil => rw [List.singleton_append, List.intercalate_cons_of_ne_nil (List.cons_ne_nil _ _),
        List.intercalate_singleton, List.intercalate_singleton]
    | cons next parts =>
      rw [List.cons_append, List.intercalate_cons_of_ne_nil (List.append_ne_nil_of_left_ne_nil
        (List.cons_ne_nil _ _) _), ih (List.cons_ne_nil _ _),
        List.intercalate_cons_of_ne_nil (List.cons_ne_nil _ _)]
      simp only [List.append_assoc]

/-- The text behind the last occurrence in the parts up to a place is the part at this place, if
that is the first or if no occurrence of the word begins inside of the one before it. -/
theorem afterLast_upTo_eq_part_iff {n : Nat} {part : List Char}
    (h : (parts w word text)[n]? = some part) :
    afterLast (w :: word) (upTo (w :: word) (n + 1) text) = part ↔
      n = 0 ∨ ¬ (w :: word) <:+: word ++ part := by
  have hpart := not_isInfix_part part (List.mem_of_getElem? h)
  rw [upTo_eq, List.take_add_one, h, Option.toList_some]
  cases n with
  | zero =>
    rw [List.take_zero, List.nil_append, List.intercalate_singleton,
      afterLast_of_not_isInfix hpart]
    exact iff_of_true rfl (.inl rfl)
  | succ n =>
    have hne : (parts w word text).take (n + 1) ≠ [] := by
      simp [parts_ne_nil]
    rw [intercalate_concat hne, afterLast_append_eq_iff]
    exact (or_iff_right (Nat.succ_ne_zero n)).symm

/-- Behind the last place the whole text is taken, and nothing is left of it only if it is empty or
ends in the word. -/
theorem afterLast_upTo_eq_nil_iff {n : Nat} (h : (parts w word text)[n]? = none) :
    afterLast (w :: word) (upTo (w :: word) (n + 1) text) = [] ↔
      text = [] ∨ (w :: word) <:+ text := by
  have hlength := List.getElem?_eq_none_iff.mp h
  rw [upTo_eq, List.take_of_length_le (Nat.le_succ_of_le hlength), intercalate_parts,
    afterLast_eq_nil_iff]

end Parts

end CleanSql.Text
