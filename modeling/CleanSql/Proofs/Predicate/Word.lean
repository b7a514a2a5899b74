import CleanSql.Proofs.Lexical
import CleanSql.Proofs.Trim

/-!
# The words of a predicate

A predicate is read as words between blanks and parentheses. Inside of quotes neither blanks nor
parentheses count; a word that is no keyword is a name. A text may be set between others as long as
a blank or a parenthesis keeps its words apart from theirs (`scan_separator`).
-/
namespace CleanSql.Predicate

inductive Word where
  | name (text : String)
  | opening
  | closing
  | not
  | and
  | or
  | is
  | null
  | caseWord
  | whenWord
  | thenWord
  | elseWord
  | endWord
  deriving DecidableEq, Repr

def Word.ofChars (cs : List Char) : Word :=
  match String.ofList (cs.map Char.toUpper) with
  | "NOT" => not
  | "AND" => and
  | "OR" => or
  | "IS" => is
  | "NULL" => null
  | "CASE" => caseWord
  | "WHEN" => whenWord
  | "THEN" => thenWord
  | "ELSE" => elseWord
  | "END" => endWord
  | _ => name (String.ofList cs)

def ended (cs : List Char) : List Word := if cs = [] then [] else [.ofChars cs]

def separator? (c : Char) : Option (List Word) :=
  if Text.isBlank c then some []
  else if c = '(' then some [.opening]
  else if c = ')' then some [.closing]
  else none

/-- The words of a text, behind the part of a word; none if a quote is left open. -/
def scan (p : Profile) : LexMode → List Char → List Char → Option (List Word)
  | m, word, [] => if m.isOutside then some (ended word) else none
  | m, word, c :: cs =>
    match if m.step p c = .code then separator? c else none with
    | some ws => (scan p .code [] cs).map fun rest => ended word ++ ws ++ rest
    | none => scan p (m.step p c) (word ++ [c]) cs

def words (p : Profile) (s : String) : Option (List Word) := scan p .code [] s.toList

example : words .tsql "not (\"a\" OR [b ]]) is] IS null)" =
    some [.not, .opening, .name "\"a\"", .or, .name "[b ]]) is]", .is, .null, .closing] := by decide

variable {p : Profile}

theorem ne_of_separator {c q : Char} {ws : List Word} (h : separator? c = some ws)
    (hq : separator? q = none) : c ≠ q := by
  rintro rfl
  rw [hq] at h
  cases h

theorem separator_closing (q : IdentifierQuote) : separator? q.closing = none := by
  cases q <;> decide

theorem step_of_separator {m : LexMode} (hm : m.isOutside) {c : Char} {ws : List Word}
    (h : separator? c = some ws) : m.step p c = .code := by
  have hquote : c ≠ '\'' := ne_of_separator h (by decide)
  have hopening : c ≠ p.identifierQuote.opening :=
    ne_of_separator h (by cases p.identifierQuote <;> decide)
  rw [LexMode.step_of_isOutside hm hquote (ne_of_separator h (separator_closing _)), LexMode.step,
    LexMode.enter, if_neg hquote, if_neg hopening]

/-- A separator closes no quote. -/
theorem step_of_not_isOutside {m : LexMode} (hm : ¬ m.isOutside) {c : Char} {ws : List Word}
    (h : separator? c = some ws) : ¬ (m.step p c).isOutside := by
  have hquote : c ≠ '\'' := ne_of_separator h (by decide)
  have hclosing : c ≠ p.identifierQuote.closing := ne_of_separator h (separator_closing _)
  cases m with
  | code | literalEnd | identifierEnd => exact absurd rfl hm
  | literal =>
    rw [LexMode.step, if_neg hquote]
    split <;> decide
  | escaped => exact Bool.false_ne_true
  | identifier =>
    rw [LexMode.step, if_neg hclosing]
    decide

theorem scan_separator {m : LexMode} {word xs : List Char} {us : List Word}
    (h : scan p m word xs = some us) {c : Char} {ws : List Word} (hc : separator? c = some ws)
    (ys : List Char) : scan p m word (xs ++ c :: ys) =
      (scan p .code [] ys).map fun rest => us ++ ws ++ rest := by
  induction xs generalizing m word us with
  | nil =>
    rw [scan] at h
    split_ifs at h with hm
    cases h
    rw [List.nil_append, scan, if_pos (step_of_separator hm hc), hc]
  | cons x xs ih =>
    rw [scan] at h
    rw [List.cons_append, scan]
    split at h
    · next vs hv =>
      obtain ⟨rest, hrest, rfl⟩ := Option.map_eq_some_iff.mp h
      rw [ih hrest, Option.map_map]
      simp [Function.comp_def, List.append_assoc]
    · exact ih h

theorem scan_cons_separator {c : Char} {ws : List Word} (hc : separator? c = some ws)
    (ys : List Char) :
    scan p .code [] (c :: ys) = (scan p .code [] ys).map fun rest => ws ++ rest := by
  have hempty : scan p .code [] [] = some [] := rfl
  exact scan_separator hempty hc ys

theorem scan_append_blank (m : LexMode) (word xs : List Char) {b : Char} (hb : Text.isBlank b) :
    scan p m word (xs ++ [b]) = scan p m word xs := by
  have hsep : separator? b = some [] := if_pos hb
  induction xs generalizing m word with
  | nil =>
    by_cases hm : m.isOutside
    · rw [List.nil_append, scan, scan, if_pos hm, if_pos (step_of_separator hm hsep), hsep]
      simp [scan, ended, LexMode.isOutside]
    · have hout := step_of_not_isOutside (p := p) hm hsep
      have hcode : m.step p b ≠ .code := by
        intro h
        rw [h] at hout
        exact hout rfl
      rw [List.nil_append, scan, scan, if_neg hm, if_neg hcode]
      exact if_neg hout
  | cons x xs ih =>
    rw [List.cons_append, scan, scan]
    split
    · rw [ih]
    · exact ih _ _

theorem scan_append_blanks (m : LexMode) (word xs : List Char) {ys : List Char}
    (hy : ∀ b ∈ ys, Text.isBlank b) : scan p m word (xs ++ ys) = scan p m word xs := by
  induction ys generalizing xs with
  | nil => rw [List.append_nil]
  | cons b ys ih =>
    rw [List.forall_mem_cons] at hy
    rw [List.append_cons, ih (xs ++ [b]) hy.2, scan_append_blank m word xs hy.1]

theorem words_trim (s : String) : words p (Text.trim s) = words p s := by
  obtain ⟨xs, ys, hx, hy, hs⟩ := Text.exists_eq_append_trimChars s.toList
  have hleft (cs : List Char) : scan p .code [] (xs ++ cs) = scan p .code [] cs := by
    clear hs
    induction xs with
    | nil => rfl
    | cons b xs ih =>
      rw [List.forall_mem_cons] at hx
      have hsep : separator? b = some [] := if_pos hx.1
      rw [List.cons_append, scan_cons_separator hsep, ih hx.2]
      simp
  rw [words, words, Text.toList_trim, hs, scan_append_blanks _ _ _ hy, hleft, ← hs]

theorem words_between {s before after : String} {us vs ws : List Word} (hs : words p s = some vs)
    {l r : Char} {ls rs : List Word} (hl : separator? l = some ls) (hr : separator? r = some rs)
    (hbefore : words p before = some us) (hafter : words p after = some ws) :
    words p (before ++ String.singleton l ++ s ++ String.singleton r ++ after) =
      some (us ++ ls ++ (vs ++ rs ++ ws)) := by
  have hright : scan p .code [] (s.toList ++ r :: after.toList) = some (vs ++ rs ++ ws) := by
    rw [scan_separator hs hr]
    show (words p after).map _ = _
    rw [hafter]
    rfl
  have hlist : (before ++ String.singleton l ++ s ++ String.singleton r ++ after).toList =
      before.toList ++ l :: (s.toList ++ r :: after.toList) := by
    simp
  rw [words, hlist, scan_separator hbefore hl, hright]
  rfl

end CleanSql.Predicate
