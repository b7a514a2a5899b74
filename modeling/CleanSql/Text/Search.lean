/-!
# Words in a text

The first place where a word occurs, by the characters before it and after it.
-/
namespace CleanSql.Text

def dropWord? : List Char → List Char → Option (List Char)
  | [], text => some text
  | _ :: _, [] => none
  | w :: word, c :: text => if w = c then dropWord? word text else none

theorem dropWord?_eq_some_iff {word text rest : List Char} :
    dropWord? word text = some rest ↔ text = word ++ rest := by
  induction word generalizing text with
  | nil => simp [dropWord?]
  | cons w word ih =>
    cases text with
    | nil => simp [dropWord?]
    | cons c text =>
      by_cases h : w = c
      · simp [dropWord?, h, ih]
      · simp [dropWord?, h, Ne.symm h]

def after? (word : List Char) : List Char → Option (List Char)
  | [] => dropWord? word []
  | c :: text => (dropWord? word (c :: text)).or (after? word text)

theorem length_lt_of_dropWord? {w : Char} {word text rest : List Char}
    (h : dropWord? (w :: word) text = some rest) : rest.length < text.length := by
  rw [dropWord?_eq_some_iff.1 h, List.length_append, List.length_cons]
  omega

/-- A text with an addition behind every occurrence of a word that begins with `w`. -/
def addAfter (w : Char) (word addition : List Char) (text : List Char) : List Char :=
  match _h : dropWord? (w :: word) text with
  | some rest => w :: word ++ addition ++ addAfter w word addition rest
  | none =>
    match text with
    | [] => []
    | c :: rest => c :: addAfter w word addition rest
termination_by text.length
decreasing_by
  · exact length_lt_of_dropWord? _h
  · simp

end CleanSql.Text
