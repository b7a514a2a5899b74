import Mathlib.Data.List.DropRight
import CleanSql.Text.Basic

/-!
# Trimmed texts

A text is its trimmed text with blanks on both sides, and trimming takes them all off at once. A
text that begins and ends with characters that are not blank stays as it is
(`Text.IsTight.trim_eq`), and nothing else comes of trimming but the empty text
(`Text.isTight_trim`).
-/
namespace CleanSql.Text

theorem trimChars_eq_rdropWhile (cs : List Char) :
    trimChars cs = (cs.dropWhile isBlank).rdropWhile isBlank := rfl

theorem dropWhile_trimChars (cs : List Char) : (trimChars cs).dropWhile isBlank = trimChars cs := by
  refine List.dropWhile_eq_self_iff.mpr fun hl => ?_
  have hpre : trimChars cs <+: cs.dropWhile isBlank := List.rdropWhile_prefix isBlank _
  have hlen : 0 < (cs.dropWhile isBlank).length := Nat.lt_of_lt_of_le hl hpre.length_le
  rw [hpre.getElem hl]
  exact List.dropWhile_get_zero_not _ _ hlen

theorem trimChars_trimChars (cs : List Char) : trimChars (trimChars cs) = trimChars cs := by
  rw [trimChars_eq_rdropWhile, dropWhile_trimChars]
  exact List.rdropWhile_idempotent isBlank _

theorem trim_trim (s : String) : trim (trim s) = trim s := by
  rw [trim, toList_trim, trimChars_trimChars, trim]

theorem exists_eq_append_trimChars (cs : List Char) :
    ∃ xs ys, (∀ c ∈ xs, isBlank c) ∧ (∀ c ∈ ys, isBlank c) ∧ cs = xs ++ trimChars cs ++ ys := by
  refine ⟨cs.takeWhile isBlank, (cs.dropWhile isBlank).rtakeWhile isBlank,
    fun c hc => List.mem_takeWhile_imp hc, fun c hc => List.mem_rtakeWhile_imp hc, ?_⟩
  rw [trimChars_eq_rdropWhile, List.append_assoc, List.rdropWhile_append_rtakeWhile,
    List.takeWhile_append_dropWhile]

theorem trimChars_eq_nil_iff {cs : List Char} : trimChars cs = [] ↔ ∀ c ∈ cs, isBlank c := by
  constructor
  · intro h
    obtain ⟨xs, ys, hxs, hys, hcs⟩ := exists_eq_append_trimChars cs
    rw [hcs, h, List.append_nil]
    exact fun c hc => (List.mem_append.mp hc).elim (hxs c) (hys c)
  · intro h
    rw [trimChars, List.dropWhile_eq_nil_iff.mpr h]
    rfl

theorem trimChars_cons_blank {c : Char} (h : isBlank c) (cs : List Char) :
    trimChars (c :: cs) = trimChars cs := by
  rw [trimChars, List.dropWhile_cons_of_pos h, trimChars]

theorem trimChars_concat_blank {c : Char} (h : isBlank c) (cs : List Char) :
    trimChars (cs ++ [c]) = trimChars cs := by
  rw [trimChars_eq_rdropWhile, trimChars_eq_rdropWhile, List.dropWhile_append]
  split_ifs with hcs
  · rw [List.isEmpty_iff.mp hcs, List.dropWhile_cons_of_pos h]
    rfl
  · exact List.rdropWhile_concat_pos isBlank _ c h

theorem trim_eq_empty_iff {s : String} : trim s = "" ↔ isBlankText s := by
  rw [← String.toList_inj, toList_trim, String.toList_empty, trimChars_eq_nil_iff, isBlankText,
    List.all_eq_true]

theorem isBlankText_trim (s : String) : isBlankText (trim s) = isBlankText s := by
  rw [Bool.eq_iff_iff, ← trim_eq_empty_iff, ← trim_eq_empty_iff, trim_trim]

/-- The text has a first character, and it is not blank. -/
def isTightLeft (s : String) : Bool := s.toList.head?.any fun c => !isBlank c

/-- The text has a last character, and it is not blank. -/
def isTightRight (s : String) : Bool := s.toList.getLast?.any fun c => !isBlank c

/-- A text, not empty, without blanks at its ends. -/
structure IsTight (s : String) : Prop where
  left : isTightLeft s
  right : isTightRight s

/-- What stands between two characters that are not blank does not matter. -/
theorem isTight_of_toList_eq {s : String} {a b : Char} {cs : List Char}
    (h : s.toList = a :: cs ++ [b]) (ha : ¬ isBlank a) (hb : ¬ isBlank b) : IsTight s := by
  refine ⟨?_, ?_⟩
  · rw [isTightLeft, h]
    simpa using ha
  · rw [isTightRight, h, List.getLast?_concat]
    simpa using hb

theorem isTightLeft_append {a : String} (h : isTightLeft a) (b : String) :
    isTightLeft (a ++ b) := by
  unfold isTightLeft at *
  rw [String.toList_append, List.head?_append]
  cases hc : a.toList.head? with
  | none => rw [hc] at h; cases h
  | some c => rwa [hc] at h

theorem isTightRight_append (a : String) {b : String} (h : isTightRight b) :
    isTightRight (a ++ b) := by
  unfold isTightRight at *
  rw [String.toList_append, List.getLast?_append]
  cases hc : b.toList.getLast? with
  | none => rw [hc] at h; cases h
  | some c => rwa [hc] at h

theorem head?_of_dropWhile_eq {cs : List Char} (h : cs.dropWhile isBlank = cs) (hne : cs ≠ []) :
    cs.head?.any fun c => !isBlank c := by
  cases cs with
  | nil => exact absurd rfl hne
  | cons c cs =>
    have hc : ¬ isBlank c := List.dropWhile_eq_self_iff.mp h (Nat.zero_lt_succ _)
    simpa using hc

theorem dropWhile_of_head? {cs : List Char} (h : cs.head?.any fun c => !isBlank c) :
    cs.dropWhile isBlank = cs := by
  cases cs with
  | nil => rfl
  | cons c cs =>
    have hc : ¬ isBlank c := by simpa using h
    exact List.dropWhile_cons_of_neg hc

theorem isTight_trim {s : String} (h : trim s ≠ "") : IsTight (trim s) := by
  have hne : trimChars s.toList ≠ [] := by
    rw [← toList_trim]
    exact fun he => h (String.toList_inj.mp he)
  have hright : (trimChars s.toList).reverse.dropWhile isBlank = (trimChars s.toList).reverse := by
    rw [trimChars, List.reverse_reverse]
    exact List.dropWhile_idempotent isBlank _
  refine ⟨?_, ?_⟩
  · rw [isTightLeft, toList_trim]
    exact head?_of_dropWhile_eq (dropWhile_trimChars _) hne
  · rw [isTightRight, toList_trim, ← List.head?_reverse]
    exact head?_of_dropWhile_eq hright (List.reverse_ne_nil_iff.mpr hne)

namespace IsTight

theorem ne_empty {s : String} (h : IsTight s) : s ≠ "" := by
  rintro rfl
  cases h.left

theorem trim_eq {s : String} (h : IsTight s) : trim s = s := by
  have hlast : s.toList.reverse.head?.any fun c => !isBlank c := by
    rw [List.head?_reverse]
    exact h.right
  rw [← String.toList_inj, toList_trim, trimChars, dropWhile_of_head? h.left,
    dropWhile_of_head? hlast, List.reverse_reverse]

end IsTight

end CleanSql.Text
