import Mathlib.Data.List.Basic
import CleanSql.Text.Search

/-!
# The first occurrence of a word

What is behind the first occurrence of a word has the word once before it and nowhere earlier
(`after?_eq_some_iff`). A word whose first character does not come up again inside of it cannot
overlap with itself, so "nowhere earlier" is "nowhere in the text before it".
-/
namespace CleanSql.Text

variable {w : Char} {word text rest : List Char}

theorem dropWord?_eq_none_iff {word text : List Char} :
    dropWord? word text = none ↔ ¬ word <+: text := by
  rw [Option.eq_none_iff_forall_ne_some]
  constructor
  · rintro h ⟨rest, hrest⟩
    exact h rest (dropWord?_eq_some_iff.mpr hrest.symm)
  · intro h rest hrest
    exact h ⟨rest, (dropWord?_eq_some_iff.mp hrest).symm⟩

theorem dropWord?_of_ne {c d : Char} (h : c ≠ d) (start word rest : List Char) :
    dropWord? (start ++ c :: word) (start ++ d :: rest) = none := by
  induction start with
  | nil => exact if_neg h
  | cons x start ih => exact (if_pos rfl).trans ih

theorem after?_cons_of_isPrefix {c : Char} (h : c :: text = word ++ rest) :
    after? word (c :: text) = some rest := by
  rw [after?, dropWord?_eq_some_iff.mpr h, Option.some_or]

theorem after?_cons_of_not_isPrefix {c : Char} (h : ¬ word <+: c :: text) :
    after? word (c :: text) = after? word text := by
  rw [after?, dropWord?_eq_none_iff.mpr h, Option.none_or]

theorem after?_eq_none_iff {word text : List Char} : after? word text = none ↔ ¬ word <:+: text := by
  induction text with
  | nil => rw [after?, dropWord?_eq_none_iff, List.prefix_nil, List.infix_nil]
  | cons c text ih =>
    rw [List.infix_cons_iff, not_or]
    by_cases h : word <+: c :: text
    · obtain ⟨rest, hrest⟩ := h
      rw [after?_cons_of_isPrefix hrest.symm]
      simp [← hrest]
    · rw [after?_cons_of_not_isPrefix h, ih, and_iff_right h]

/-- Two occurrences of a word that does not overlap with itself: if the text before one has no
other, it is not behind the other. -/
theorem length_le_of_not_isInfix (hw : w ∉ word) {a b before : List Char}
    (h : a ++ w :: word ++ b = before ++ w :: word ++ rest) (hfirst : ¬ w :: word <:+: before) :
    before.length ≤ a.length := by
  by_contra hlt
  rw [List.append_assoc, List.append_assoc, List.append_eq_append_iff] at h
  obtain ⟨t, ht, hrest⟩ | ⟨t, ht, -⟩ := h
  · -- The earlier occurrence begins inside of the text before the other one, and ends there too or
    -- takes in the beginning of the other.
    rw [List.append_eq_append_iff] at hrest
    obtain ⟨u, hu, -⟩ | ⟨u, hu, hword⟩ := hrest
    · exact hfirst ⟨a, u, by rw [ht, hu, List.append_assoc]⟩
    · cases t with
      | nil => simp [ht] at hlt
      | cons x t =>
        rw [List.cons_append, List.cons.injEq] at hu
        cases u with
        | nil => exact hfirst ⟨a, [], by simp [ht, hu.1, hu.2]⟩
        | cons y u =>
          have hy : w = y := by simpa using congrArg List.head? hword
          exact hw (by simp [hu.2, hy])
  · rw [ht, List.length_append] at hlt
    omega

/-- A word is not completed by what is added, if this does not begin with its last letter and does
not have the one before. -/
theorem not_isInfix_append {x y : Char} {more : List Char} (h : ¬ word ++ [x, y] <:+: text)
    (hx : x ∉ more) (hy : more.head? ≠ some y) : ¬ word ++ [x, y] <:+: text ++ more := by
  rintro ⟨a, b, hoccurs⟩
  obtain ⟨t, ht, -⟩ | ⟨t, ht, hmore⟩ := List.append_eq_append_iff.mp hoccurs
  · exact h ⟨a, t, ht.symm⟩
  · obtain rfl | ⟨t, z, rfl⟩ := List.eq_nil_or_concat t
    · exact h ⟨a, [], by simpa using ht⟩
    · have hends : a ++ word ++ [x] = text ++ t ∧ y = z := by
        refine List.append_singleton_inj.mp ?_
        simpa using ht
      obtain rfl | ⟨t, z', rfl⟩ := List.eq_nil_or_concat t
      · exact hy (by simp [hmore, hends.2])
      · have hlast : a ++ word = text ++ t ∧ x = z' := by
          refine List.append_singleton_inj.mp ?_
          simpa using hends.1
        exact hx (by simp [hmore, hlast.2])

theorem after?_eq_some_iff (hw : w ∉ word) : after? (w :: word) text = some rest ↔
    ∃ before, text = before ++ w :: word ++ rest ∧ ¬ w :: word <:+: before := by
  induction text with
  | nil => simp [after?, dropWord?]
  | cons c text ih =>
    by_cases h : w :: word <+: c :: text
    · obtain ⟨behind, hbehind⟩ := h
      rw [after?_cons_of_isPrefix hbehind.symm, Option.some.injEq]
      constructor
      · rintro rfl
        exact ⟨[], by simpa using hbehind.symm, by simp⟩
      · rintro ⟨before, htext, hfirst⟩
        have hlength := length_le_of_not_isInfix (a := []) (b := behind) hw
          (by simpa using hbehind.trans htext) hfirst
        obtain rfl : before = [] := List.length_eq_zero_iff.mp (by simpa using hlength)
        rw [List.nil_append, ← hbehind] at htext
        exact List.append_cancel_left htext
    · rw [after?_cons_of_not_isPrefix h, ih]
      constructor
      · rintro ⟨before, rfl, hfirst⟩
        refine ⟨c :: before, by simp, fun hoccurs => ?_⟩
        obtain hbegins | hoccurs := List.infix_cons_iff.mp hoccurs
        · exact h (hbegins.trans ⟨w :: word ++ rest, by simp⟩)
        · exact hfirst hoccurs
      · rintro ⟨before, htext, hfirst⟩
        cases before with
        | nil => exact absurd ⟨rest, by simpa using htext.symm⟩ h
        | cons b before =>
          rw [List.cons_append, List.cons_append, List.cons.injEq] at htext
          exact ⟨before, htext.2, fun hoccurs => hfirst (List.infix_cons hoccurs)⟩

/-- What is added at the end does not move the first occurrence. -/
theorem after?_append {word : List Char} (h : after? word text = some rest) (more : List Char) :
    after? word (text ++ more) = some (rest ++ more) := by
  induction text with
  | nil =>
    rw [after?, dropWord?_eq_some_iff, eq_comm, List.append_eq_nil_iff] at h
    obtain ⟨rfl, rfl⟩ := h
    cases more <;> rfl
  | cons c text ih =>
    by_cases hbegins : word <+: c :: text
    · obtain ⟨behind, hbehind⟩ := hbegins
      rw [after?_cons_of_isPrefix hbehind.symm, Option.some.injEq] at h
      subst h
      have hmore : c :: (text ++ more) = word ++ (behind ++ more) := by
        rw [← List.append_assoc, hbehind, List.cons_append]
      rw [List.cons_append, after?_cons_of_isPrefix hmore]
    · rw [after?_cons_of_not_isPrefix hbegins] at h
      -- The word is as long as the text at most, so the addition does not complete it.
      have hoccurs : word <:+: text := by
        by_contra hnone
        rw [after?_eq_none_iff.mpr hnone] at h
        cases h
      have hmore : ¬ word <+: c :: (text ++ more) := by
        intro hlonger
        have hle : word.length ≤ (c :: text).length := by
          have hword := hoccurs.length_le
          rw [List.length_cons]
          omega
        exact hbegins (List.prefix_of_prefix_length_le hlonger ⟨more, rfl⟩ hle)
      rw [List.cons_append, after?_cons_of_not_isPrefix hmore, ih h]

end CleanSql.Text
