import CleanSql.Proofs.Split.Evaluation

/-!
# Replacing a word

A text with another one in the place of each occurrence of a word is its parts with that other text
between them. A word of one character does not overlap with itself, so its occurrences are replaced
one by one (`Text.toList_replace_singleton`).
-/
namespace CleanSql.Text

/-- A text with another one in place of each occurrence of a word, taken from left to right. -/
def replace (word other s : String) : String := String.intercalate other (split word s)

theorem flatMap_intercalate {α β : Type} (f : α → List β) (separator : List α)
    (parts : List (List α)) : (separator.intercalate parts).flatMap f =
      (separator.flatMap f).intercalate (parts.map fun part => part.flatMap f) := by
  induction parts with
  | nil => rfl
  | cons part parts ih =>
    by_cases h : parts = []
    · rw [h, List.intercalate_singleton, List.map_singleton, List.intercalate_singleton]
    · have hmap : (parts.map fun part => part.flatMap f) ≠ [] := by simpa using h
      rw [List.map_cons, List.intercalate_cons_of_ne_nil h, List.intercalate_cons_of_ne_nil hmap,
        List.flatMap_append, List.flatMap_append, ih]

theorem parts_eq_splitOn (w : Char) (cs : List Char) : parts w [] cs = cs.splitOn w := by
  have hparts : ∀ part ∈ parts w [] cs, w ∉ part := by
    intro part hpart hmem
    exact not_isInfix_part part hpart ((List.singleton_infix_iff w part).mpr hmem)
  rw [← List.splitOn_intercalate w hparts parts_ne_nil, intercalate_parts]

theorem split_singleton (w : Char) (s : String) :
    split (String.singleton w) s = (s.toList.splitOn w).map String.ofList := by
  have hword : (String.singleton w).toList = [w] := by simp
  rw [split, hword, ← parts_eq_splitOn]

theorem not_mem_splitOn {w : Char} {cs part : List Char} (h : part ∈ cs.splitOn w) : w ∉ part := by
  rw [← parts_eq_splitOn] at h
  intro hmem
  exact not_isInfix_part part h ((List.singleton_infix_iff w part).mpr hmem)

/-- What is written character by character is written part by part. -/
theorem flatMap_eq_intercalate {f g : Char → List Char} {w : Char} (h : ∀ c, c ≠ w → f c = g c)
    (cs : List Char) : cs.flatMap f =
      (f w).intercalate ((cs.splitOn w).map fun part => part.flatMap g) := by
  have hparts : ((cs.splitOn w).map fun part => part.flatMap f) =
      (cs.splitOn w).map fun part => part.flatMap g := by
    refine List.map_congr_left fun part hpart => List.flatMap_congr fun c hc => h c ?_
    rintro rfl
    exact not_mem_splitOn hpart hc
  have hflat := flatMap_intercalate f [w] (cs.splitOn w)
  rwa [List.intercalate_splitOn, List.flatMap_singleton, hparts] at hflat

theorem toList_replace_singleton (w : Char) (other s : String) :
    (replace (String.singleton w) other s).toList =
      s.toList.flatMap fun c => if c = w then other.toList else [c] := by
  have hother (c : Char) (hc : c ≠ w) : (if c = w then other.toList else [c]) = [c] := if_neg hc
  rw [replace, split_singleton, String.toList_intercalate, flatMap_eq_intercalate hother,
    if_pos rfl, List.map_map]
  simp

end CleanSql.Text
