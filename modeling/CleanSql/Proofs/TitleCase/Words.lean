import CleanSql.Proofs.Json.Printing
import CleanSql.Proofs.Split.Replace

/-!
# Words between single spaces

The words of a text are what is between its single spaces, so that between two spaces there is an
empty one. In the JSON text of a list of one text, spaces stand for themselves and nothing else has
one, whatever is escaped. So if quotes and a comma are put in their places, it is the JSON text of
the list of all words (`Json.meaning_replace_space`).
-/
namespace CleanSql

namespace Text

/-- The words of a text, between single spaces. -/
def words (s : String) : List String := split " " s

/-- A word with its first character in upper case and the rest in lower case. -/
def capital (upper lower : String → String) (word : String) : String :=
  match word.toList with
  | [] => ""
  | c :: cs => upper (String.singleton c) ++ lower (String.ofList cs)

theorem capital_eq {upper lower : String → String} (hupper : upper "" = "") (hlower : lower "" = "")
    (word : String) :
    upper (String.ofList (word.toList.take 1)) ++ lower (String.ofList (word.toList.drop 1)) =
      capital upper lower word := by
  unfold capital
  cases word.toList with
  | nil => simp [hupper, hlower]
  | cons c cs => rfl

def titleCase (upper lower : String → String) (s : String) : String :=
  String.intercalate " " ((words s).map (capital upper lower))

theorem words_eq (s : String) : words s = (s.toList.splitOn ' ').map String.ofList :=
  split_singleton ' ' s

theorem words_ne_nil (s : String) : words s ≠ [] := by
  rw [words_eq, ← parts_eq_splitOn, ne_eq, List.map_eq_nil_iff]
  exact parts_ne_nil

theorem not_mem_word {s word : String} (h : word ∈ words s) : ' ' ∉ word.toList := by
  rw [words_eq] at h
  obtain ⟨part, hpart, rfl⟩ := List.mem_map.mp h
  rw [String.toList_ofList]
  exact not_mem_splitOn hpart

end Text

namespace Json

/-- No way to spell a character has a space in it, but for the space itself. -/
theorem Spells.not_mem_space {c : Char} {cs : List Char} (h : Spells c cs) (hc : c ≠ ' ') :
    ' ' ∉ cs := by
  cases h with
  | plain => simpa using hc.symm
  | @short x hescape =>
    have hx : x ≠ ' ' := by
      rintro rfl
      cases hescape
    simp [hx.symm]
  | @code digits hlength hdigits _ =>
    obtain ⟨x₁, x₂, x₃, x₄, rfl⟩ := List.length_eq_four.mp hlength
    simp only [Number.natOfDigits?, List.foldlM_cons, Option.bind_eq_bind,
      Option.bind_eq_some_iff] at hdigits
    have hdigit : Number.digitValue? ' ' = none := rfl
    grind

theorem quoted_intercalate {parts : List (List Char)} (h : parts ≠ []) :
    '"' :: ['"', ',', '"'].intercalate parts ++ ['"'] =
      [','].intercalate (parts.map fun part => '"' :: part ++ ['"']) := by
  induction parts with
  | nil => exact absurd rfl h
  | cons part parts ih =>
    by_cases hparts : parts = []
    · rw [hparts, List.map_singleton, List.intercalate_singleton, List.intercalate_singleton]
    · have hmap : (parts.map fun part => '"' :: part ++ ['"']) ≠ [] := by simpa using hparts
      rw [List.map_cons, List.intercalate_cons_of_ne_nil hmap, ← ih hparts,
        List.intercalate_cons_of_ne_nil hparts]
      simp

def singletonText (e : Char → List Char) (s : String) : String :=
  "[\"" ++ String.ofList (s.toList.flatMap e) ++ "\"]"

section Rewriting

variable {e : Char → List Char} (he : ∀ c, Spells c (e c)) (hspace : e ' ' = [' '])

include he hspace

theorem toList_replace_singletonText (s : String) :
    (Text.replace " " "\",\"" (singletonText e s)).toList =
      '[' :: [','].intercalate ((s.toList.splitOn ' ').map fun part =>
        '"' :: part.flatMap e ++ ['"']) ++ [']'] := by
  let f (c : Char) : List Char := if c = ' ' then "\",\"".toList else [c]
  -- No spelling is touched, since none has a space in it.
  have hsame (c : Char) (hc : c ≠ ' ') : (e c).flatMap f = e c := by
    have hmap : ∀ x ∈ e c, f x = [x] := by
      intro x hx
      refine if_neg ?_
      rintro rfl
      exact (he c).not_mem_space hc hx
    rw [List.flatMap_congr hmap, List.flatMap_singleton']
  have hquotes : (e ' ').flatMap f = ['"', ',', '"'] := by
    rw [hspace]
    rfl
  have hbody := Text.flatMap_eq_intercalate hsame s.toList
  rw [hquotes] at hbody
  have hwhole : (singletonText e s).toList = ['[', '"'] ++ s.toList.flatMap e ++ ['"', ']'] := by
    simp [singletonText]
  have hne : ((s.toList.splitOn ' ').map fun part => part.flatMap e) ≠ [] := by
    rw [← Text.parts_eq_splitOn]
    simpa using Text.parts_ne_nil
  have hlist := quoted_intercalate hne
  rw [List.map_map] at hlist
  have hspaces : (Text.replace " " "\",\"" (singletonText e s)).toList =
      (singletonText e s).toList.flatMap f := Text.toList_replace_singleton ' ' _ _
  rw [hspaces, hwhole, List.flatMap_append, List.flatMap_append, List.flatMap_assoc, hbody]
  have houter : ['[', '"'].flatMap f = ['[', '"'] ∧ ['"', ']'].flatMap f = ['"', ']'] := ⟨rfl, rfl⟩
  rw [houter.1, houter.2]
  have hseam (cs : List Char) :
      ['[', '"'] ++ cs ++ ['"', ']'] = '[' :: ('"' :: cs ++ ['"']) ++ [']'] := by
    simp
  rw [hseam, hlist]
  rfl

/-- With quotes and a comma for each space, the list has all words of the text. -/
theorem meaning_replace_space (s : String) :
    meaning (Text.replace " " "\",\"" (singletonText e s)) =
      .list ((Text.words s).map .text) := by
  have hread : List.Forall₂ ReadBack
      ((s.toList.splitOn ' ').map fun part => '"' :: part.flatMap e ++ ['"'])
      ((Text.words s).map .text) := by
    rw [Text.words_eq, List.map_map, List.forall₂_map_left_iff, List.forall₂_map_right_iff,
      List.forall₂_same]
    exact fun part _ => .quoted he part
  refine ReadBack.meaning_eq ?_
  rw [toList_replace_singletonText he hspace]
  exact .list hread

end Rewriting

end Json

end CleanSql
