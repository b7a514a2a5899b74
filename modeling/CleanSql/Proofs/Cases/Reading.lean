import CleanSql.Fragment.Literal
import CleanSql.Proofs.Quoting.Literal
import CleanSql.Proofs.Surface
import CleanSql.Proofs.Trim
import CleanSql.Text.Search

/-!
# Case distinctions that are read back

A case distinction is read with no more knowledge of its conditions than where their quotes and
parentheses are: a condition ends at the next word of a case that stands outside of them. Behind it
there is a literal of the dialect. Conditions that close what they open, and have none of these
words outside, are read back up to blanks at their ends, and the results are read back whatever is
in them (`Lexis.readCases_writeCases`).
-/
namespace CleanSql

/-- A way to tell, character by character, what stands outside of quotes and parentheses, and which
characters words are made of. Blanks open nothing, close nothing and part words. -/
structure Lexis where
  State : Type
  start : State
  next : State → Char → State
  /-- Outside of all quotes and parentheses. -/
  isOuter : State → Bool
  isWordPart : Char → Bool
  isOuter_start : isOuter start
  next_start {c : Char} : Text.isBlank c → next start c = start
  isOuter_next (s : State) {c : Char} : Text.isBlank c → isOuter (next s c) = isOuter s
  isWordPart_blank {c : Char} : Text.isBlank c → isWordPart c = false

def caseWords : List String := ["CASE", "WHEN", "THEN", "ELSE", "END"]

/-- A case distinction as it is read: its conditions with their results, and what stands for all
other cases. -/
structure CaseText where
  branches : List (String × String)
  otherwise : String
  deriving DecidableEq, Repr

namespace Lexis

section

variable (L : Lexis)

def after (s : L.State) (cs : List Char) : L.State := cs.foldl L.next s

/-- Somewhere in a text outside of quotes and parentheses there is a word, in letters of either
case, and no part of a word on either side of it. Whether there is one before the text is given. -/
def Occurs (s : L.State) (alone : Bool) (word : String) (cs : List Char) : Prop :=
  ∃ before letters behind, cs = before ++ letters ++ behind ∧
    letters.map Char.toUpper = word.toList ∧ L.isOuter (L.after s before) ∧
    (before.getLast?.elim alone fun c => !L.isWordPart c) ∧
    behind.head?.all fun c => !L.isWordPart c

/-- A text that closes all quotes and parentheses that it opens, and has no word of a case outside
of them. -/
structure IsCondition (text : String) : Prop where
  closes : L.isOuter (L.after L.start text.toList)
  wordless : ∀ word ∈ caseWords, ¬ L.Occurs L.start true word text.toList

def behindWord? (word : String) (cs : List Char) : Option (List Char) :=
  let rest := cs.drop word.toList.length
  if (cs.take word.toList.length).map Char.toUpper = word.toList ∧
    rest.head?.all fun c => !L.isWordPart c then some rest
  else none

/-- The word of a case that a text begins with, and what is behind it. -/
def caseWord? (cs : List Char) : Option (String × List Char) :=
  caseWords.findSome? fun word => (L.behindWord? word cs).map fun rest => (word, rest)

/-- A text up to the first word of a case outside of quotes and parentheses, the word, and what is
behind it. -/
def cut (s : L.State) (alone : Bool) : List Char → Option (List Char × String × List Char)
  | [] => none
  | c :: cs =>
    match if L.isOuter s && alone then L.caseWord? (c :: cs) else none with
    | some (word, rest) => some ([], word, rest)
    | none => (cut (L.next s c) (!L.isWordPart c) cs).map fun r => (c :: r.1, r.2)

/-- Reads a condition and its result from behind a `WHEN`, and the word behind them. -/
def readBranch (p : Profile) (cs : List Char) :
    Option ((String × String) × String × List Char) :=
  (L.cut L.start true cs).bind fun (condition, word, rest) =>
    if word = "THEN" then
      (p.literalEscape.rule.read (rest.dropWhile Text.isBlank)).bind fun (result, rest) =>
        (L.caseWord? (rest.dropWhile Text.isBlank)).map fun next =>
          ((Text.trim (String.ofList condition), String.ofList result), next)
    else none

end

variable {L : Lexis}

theorem behindWord?_eq_some_iff {word : String} {cs rest : List Char} :
    L.behindWord? word cs = some rest ↔
      ∃ letters, cs = letters ++ rest ∧ letters.map Char.toUpper = word.toList ∧
        rest.head?.all fun c => !L.isWordPart c := by
  unfold behindWord?
  constructor
  · intro h
    dsimp only at h
    split_ifs at h with hword
    cases h
    exact ⟨cs.take word.toList.length, (List.take_append_drop _ _).symm, hword⟩
  · rintro ⟨letters, rfl, hletters, hrest⟩
    have hlen : word.toList.length = letters.length := by rw [← hletters, List.length_map]
    rw [hlen, List.take_left, List.drop_left, if_pos ⟨hletters, hrest⟩]

theorem caseWord?_eq_none_iff {cs : List Char} :
    L.caseWord? cs = none ↔ ∀ word ∈ caseWords, ∀ rest, L.behindWord? word cs ≠ some rest := by
  rw [caseWord?, List.findSome?_eq_none_iff]
  simp only [Option.map_eq_none_iff]
  exact forall₂_congr fun word _ => Option.eq_none_iff_forall_ne_some

theorem behindWord?_of_caseWord? {cs rest : List Char} {word : String}
    (h : L.caseWord? cs = some (word, rest)) :
    word ∈ caseWords ∧ L.behindWord? word cs = some rest := by
  obtain ⟨v, hv, hmap⟩ := List.exists_of_findSome?_eq_some h
  obtain ⟨r, hr, heq⟩ := Option.map_eq_some_iff.mp hmap
  cases heq
  exact ⟨hv, hr⟩

theorem length_lt_of_caseWord? {cs rest : List Char} {word : String}
    (h : L.caseWord? cs = some (word, rest)) : rest.length < cs.length := by
  obtain ⟨hword, hbehind⟩ := behindWord?_of_caseWord? h
  obtain ⟨letters, rfl, hletters, -⟩ := behindWord?_eq_some_iff.mp hbehind
  have hlong : ∀ v ∈ caseWords, 0 < v.toList.length := by decide
  have hpos := hlong word hword
  rw [← hletters, List.length_map] at hpos
  rw [List.length_append]
  omega

theorem length_lt_of_cut {s : L.State} {alone : Bool} {cs : List Char}
    {r : List Char × String × List Char} (h : L.cut s alone cs = some r) :
    r.2.2.length < cs.length := by
  induction cs generalizing s alone r with
  | nil => cases h
  | cons c cs ih =>
    rw [cut] at h
    split at h
    · next word rest hword =>
      split_ifs at hword
      cases h
      exact length_lt_of_caseWord? hword
    · obtain ⟨t, ht, rfl⟩ := Option.map_eq_some_iff.mp h
      have hrest := ih ht
      exact Nat.lt_succ_of_lt hrest

theorem length_dropWhile_le (cs : List Char) :
    (cs.dropWhile Text.isBlank).length ≤ cs.length :=
  (List.dropWhile_sublist Text.isBlank).length_le

theorem length_lt_of_readBranch {p : Profile} {cs : List Char}
    {r : (String × String) × String × List Char} (h : L.readBranch p cs = some r) :
    r.2.2.length < cs.length := by
  obtain ⟨⟨condition, word, rest⟩, hcut, h⟩ := Option.bind_eq_some_iff.mp h
  dsimp only at h
  split_ifs at h
  obtain ⟨⟨result, behind⟩, hread, h⟩ := Option.bind_eq_some_iff.mp h
  obtain ⟨⟨next, tail⟩, hnext, rfl⟩ := Option.map_eq_some_iff.mp h
  have hbefore := length_lt_of_cut hcut
  have hliteral := QuoteRule.length_lt_of_read hread
  have hword := length_lt_of_caseWord? hnext
  have hblanks := length_dropWhile_le rest
  have hblanks' := length_dropWhile_le behind
  dsimp only at *
  omega

variable (L)

/-- Reads conditions and results one after the other, from behind the first `WHEN` to behind the
`ELSE`. -/
def readBranches (p : Profile) (cs : List Char) :
    Option (List (String × String) × List Char) :=
  match _h : L.readBranch p cs with
  | none => none
  | some (branch, word, rest) =>
    if word = "WHEN" then (readBranches p rest).map fun r => (branch :: r.1, r.2)
    else if word = "ELSE" then some ([branch], rest)
    else none
termination_by cs.length
decreasing_by exact length_lt_of_readBranch _h

/-- What stands between a blank and an `END` that is the end of a text. -/
def beforeEnd? : List Char → Option (List Char)
  | ' ' :: cs => (Text.dropWord? " END".toList.reverse cs.reverse).map List.reverse
  | _ => none

/-- Reads a case distinction in a dialect. -/
def readCases (p : Profile) (sql : String) : Option CaseText :=
  (L.behindWord? "CASE" sql.toList).bind fun rest =>
    (L.behindWord? "WHEN" (rest.dropWhile Text.isBlank)).bind fun rest =>
      (L.readBranches p rest).bind fun (branches, rest) =>
        (beforeEnd? rest).map fun otherwise => ⟨branches, String.ofList otherwise⟩

variable {L}

theorem after_append (s : L.State) (xs ys : List Char) :
    L.after s (xs ++ ys) = L.after (L.after s xs) ys :=
  List.foldl_append

section Blanks

variable {b : Char} (hb : Text.isBlank b)

theorem after_start_blanks {xs : List Char} (h : ∀ c ∈ xs, Text.isBlank c) :
    L.after L.start xs = L.start :=
  Automaton.foldl_same (fun _ hc => L.next_start hc) h

theorem isOuter_after_blanks (s : L.State) {ys : List Char} (h : ∀ c ∈ ys, Text.isBlank c) :
    L.isOuter (L.after s ys) = L.isOuter s := by
  induction ys generalizing s with
  | nil => rfl
  | cons c ys ih =>
    obtain ⟨hc, hys⟩ := List.forall_mem_cons.mp h
    have hrest := ih (L.next s c) hys
    rw [L.isOuter_next s hc] at hrest
    exact hrest

theorem not_isBlank_of_letters {word : String} (h : word ∈ caseWords) {letters : List Char}
    (hletters : letters.map Char.toUpper = word.toList) : ∀ c ∈ letters, ¬ Text.isBlank c := by
  have halpha : ∀ v ∈ caseWords, v.toList.all Char.isAlpha := by decide
  intro c hc hblank
  have hupper : c.toUpper.isAlpha :=
    List.all_eq_true.mp (halpha word h) _ (by rw [← hletters]; exact List.mem_map_of_mem hc)
  have hword := TypeText.not_isWordChar_of_isBlank hblank
  rw [TypeText.isWordChar_of_isAlpha (Text.isAlpha_of_toUpper hupper)] at hword
  cases hword

theorem letters_ne_nil {word : String} (h : word ∈ caseWords) {letters : List Char}
    (hletters : letters.map Char.toUpper = word.toList) : letters ≠ [] := by
  rintro rfl
  have hne : ∀ v ∈ caseWords, v.toList ≠ [] := by decide
  exact hne word h hletters.symm

include hb

theorem caseWord?_blank (rest : List Char) : L.caseWord? (b :: rest) = none := by
  rw [caseWord?_eq_none_iff]
  intro word hword tail hsome
  obtain ⟨letters, heq, hletters, -⟩ := behindWord?_eq_some_iff.mp hsome
  cases letters with
  | nil => exact letters_ne_nil hword hletters rfl
  | cons x letters =>
    obtain ⟨rfl, -⟩ := List.cons.inj heq
    exact not_isBlank_of_letters hword hletters b List.mem_cons_self hb

/-- No word of a case reaches beyond a blank, or needs it to end. -/
theorem caseWord?_append_blank {cs : List Char} (rest : List Char)
    (h : L.caseWord? cs = none) : L.caseWord? (cs ++ b :: rest) = none := by
  rw [caseWord?_eq_none_iff] at h ⊢
  intro word hword tail hsome
  obtain ⟨letters, heq, hletters, htail⟩ := behindWord?_eq_some_iff.mp hsome
  obtain ⟨more, rfl, hmore⟩ | ⟨more, rfl, hmore⟩ := List.append_eq_append_iff.mp heq
  · cases more with
    | nil =>
      rw [List.append_nil] at hletters
      refine h word hword [] (behindWord?_eq_some_iff.mpr ⟨cs, ?_, hletters, rfl⟩)
      rw [List.append_nil]
    | cons x more =>
      obtain ⟨rfl, -⟩ := List.cons.inj hmore
      exact not_isBlank_of_letters hword hletters b (by simp) hb
  · refine h word hword more (behindWord?_eq_some_iff.mpr ⟨letters, rfl, hletters, ?_⟩)
    cases more with
    | nil => rfl
    | cons x more =>
      rw [hmore] at htail
      exact htail

/-- Up to a blank there is no cut, if there is none without it. -/
theorem cut_append_blank {s : L.State} {alone : Bool} {cs : List Char} (rest : List Char)
    (h : L.cut s alone cs = none) :
    L.cut s alone (cs ++ b :: rest) =
      (L.cut (L.after s (cs ++ [b])) true rest).map fun r => (cs ++ b :: r.1, r.2) := by
  induction cs generalizing s alone with
  | nil =>
    have hnone : (if L.isOuter s && alone then L.caseWord? (b :: rest) else none) = none := by
      rw [caseWord?_blank hb, ite_self]
    have halone : (!L.isWordPart b) = true := by rw [L.isWordPart_blank hb, Bool.not_false]
    rw [List.nil_append, cut, hnone, halone]
    rfl
  | cons c cs ih =>
    rw [cut] at h
    split at h
    · cases h
    · next hword =>
      -- A word that is here with the blank would be here without it.
      have hnone : (if L.isOuter s && alone then L.caseWord? (c :: (cs ++ b :: rest)) else none) =
          none := by
        split_ifs at hword ⊢
        · exact caseWord?_append_blank hb rest hword
        · rfl
      rw [List.cons_append, cut, hnone]
      dsimp only
      rw [ih (Option.map_eq_none_iff.mp h), Option.map_map]
      rfl

end Blanks

/-- A word is in a text at its start or behind its first character. -/
theorem occurs_cons_iff {s : L.State} {alone : Bool} {word : String} {c : Char} {cs : List Char} :
    L.Occurs s alone word (c :: cs) ↔
      (L.isOuter s ∧ alone ∧ ∃ rest, L.behindWord? word (c :: cs) = some rest) ∨
        L.Occurs (L.next s c) (!L.isWordPart c) word cs := by
  have hlast (before : List Char) (x : Char) :
      ((x :: before).getLast?.elim alone fun c => !L.isWordPart c) =
        before.getLast?.elim (!L.isWordPart x) fun c => !L.isWordPart c := by
    rw [List.getLast?_cons]
    cases before.getLast? <;> rfl
  constructor
  · rintro ⟨before, letters, behind, heq, hletters, houter, halone, hbehind⟩
    cases before with
    | nil =>
      exact .inl ⟨houter, halone, behind, behindWord?_eq_some_iff.mpr
        ⟨letters, heq, hletters, hbehind⟩⟩
    | cons x before =>
      rw [List.cons_append, List.cons_append] at heq
      obtain ⟨rfl, rfl⟩ := List.cons.inj heq
      rw [hlast] at halone
      exact .inr ⟨before, letters, behind, rfl, hletters, houter, halone, hbehind⟩
  · rintro (⟨houter, halone, rest, hrest⟩ |
      ⟨before, letters, behind, rfl, hletters, houter, halone, hbehind⟩)
    · obtain ⟨letters, heq, hletters, hbehind⟩ := behindWord?_eq_some_iff.mp hrest
      exact ⟨[], letters, rest, heq, hletters, houter, halone, hbehind⟩
    · rw [← hlast] at halone
      exact ⟨c :: before, letters, behind, rfl, hletters, houter, halone, hbehind⟩

theorem cut_cons_eq_none_iff {s : L.State} {alone : Bool} {c : Char} {cs : List Char} :
    L.cut s alone (c :: cs) = none ↔
      (L.isOuter s → alone → L.caseWord? (c :: cs) = none) ∧
        L.cut (L.next s c) (!L.isWordPart c) cs = none := by
  rw [cut]
  split
  · next hword =>
    split_ifs at hword with hplace
    rw [Bool.and_eq_true] at hplace
    simp [hplace, hword]
  · next hword =>
    have hnone (houter : L.isOuter s) (halone : alone) : L.caseWord? (c :: cs) = none := by
      rwa [if_pos (by rw [houter, halone]; rfl)] at hword
    rw [Option.map_eq_none_iff]
    exact (and_iff_right hnone).symm

/-- A text has no cut exactly if no word of a case occurs in it. -/
theorem cut_eq_none_iff {s : L.State} {alone : Bool} {cs : List Char} :
    L.cut s alone cs = none ↔ ∀ word ∈ caseWords, ¬ L.Occurs s alone word cs := by
  induction cs generalizing s alone with
  | nil =>
    refine iff_of_true rfl fun word hword hoccurs => ?_
    obtain ⟨before, letters, behind, heq, hletters, -⟩ := hoccurs
    have hnil : letters = [] := by
      rw [eq_comm, List.append_eq_nil_iff, List.append_eq_nil_iff] at heq
      exact heq.1.2
    exact letters_ne_nil hword hletters hnil
  | cons c cs ih =>
    simp only [cut_cons_eq_none_iff, ih, caseWord?_eq_none_iff, occurs_cons_iff, not_or, not_and,
      not_exists]
    exact ⟨fun h word hword => ⟨fun houter halone => h.1 houter halone word hword, h.2 word hword⟩,
      fun h => ⟨fun houter halone word hword => (h word hword).1 houter halone,
        fun word hword => (h word hword).2⟩⟩

instance (text : String) : Decidable (L.IsCondition text) :=
  decidable_of_iff (L.isOuter (L.after L.start text.toList) = true ∧
      L.cut L.start true text.toList = none)
    ⟨fun h => ⟨h.1, cut_eq_none_iff.mp h.2⟩, fun h => ⟨h.closes, cut_eq_none_iff.mpr h.wordless⟩⟩

/-- Blanks at the ends of a condition do not matter. -/
theorem IsCondition.trim {text : String} (h : L.IsCondition text) :
    L.IsCondition (Text.trim text) := by
  obtain ⟨xs, ys, hxs, hys, htext⟩ := Text.exists_eq_append_trimChars text.toList
  obtain ⟨hcloses, hwordless⟩ := h
  rw [htext, after_append, isOuter_after_blanks _ hys, after_append, after_start_blanks hxs]
    at hcloses
  refine ⟨by rwa [Text.toList_trim], fun word hword hoccurs => hwordless word hword ?_⟩
  obtain ⟨before, letters, behind, heq, hletters, houter, halone, hbehind⟩ := hoccurs
  rw [Text.toList_trim] at heq
  refine ⟨xs ++ before, letters, behind ++ ys, ?_, hletters, ?_, ?_, ?_⟩
  · rw [htext, heq]
    simp only [List.append_assoc]
  · rwa [after_append, after_start_blanks hxs]
  · rw [List.getLast?_append]
    cases hlast : before.getLast? with
    | some c => rwa [hlast] at halone
    | none =>
      rw [Option.none_or]
      cases hblank : xs.getLast? with
      | none => rfl
      | some c =>
        rw [Option.elim_some, L.isWordPart_blank (hxs c (List.mem_of_getLast? hblank))]
        rfl
  · rw [List.head?_append]
    cases hhead : behind.head? with
    | some c => rwa [hhead] at hbehind
    | none =>
      rw [Option.none_or, Option.all_eq_true]
      intro c hc
      rw [L.isWordPart_blank (hys c (List.mem_of_head? hc))]
      rfl

theorem behindWord?_word {word : String} (h : word ∈ caseWords) (rest : List Char) :
    L.behindWord? word (word.toList ++ ' ' :: rest) = some (' ' :: rest) := by
  have hcapitals : ∀ v ∈ caseWords, v.toList.map Char.toUpper = v.toList := by decide
  refine behindWord?_eq_some_iff.mpr ⟨word.toList, rfl, hcapitals word h, ?_⟩
  rw [List.head?_cons, Option.all_some, L.isWordPart_blank rfl, Bool.not_false]

/-- The first two letters tell the words of a case apart. -/
theorem eq_of_letters {v word : String} (hv : v ∈ caseWords) (h : word ∈ caseWords)
    {letters rest tail : List Char} (heq : word.toList ++ rest = letters ++ tail)
    (hletters : letters.map Char.toUpper = v.toList) : v = word := by
  have hlong : ∀ w ∈ caseWords, 2 ≤ w.toList.length := by decide
  have hcapitals : ∀ w ∈ caseWords, w.toList.map Char.toUpper = w.toList := by decide
  have hunique : ∀ v ∈ caseWords, ∀ w ∈ caseWords, v.toList.take 2 = w.toList.take 2 → v = w := by
    decide
  refine hunique v hv word h ?_
  have hlength : 2 ≤ letters.length := by
    rw [← List.length_map (f := Char.toUpper), hletters]
    exact hlong v hv
  have htwo := congrArg (List.take 2) heq
  rw [List.take_append_of_le_length (hlong word h), List.take_append_of_le_length hlength] at htwo
  rw [← hletters, ← List.map_take, ← htwo, List.map_take, hcapitals word h]

theorem caseWord?_word {word : String} (h : word ∈ caseWords) (rest : List Char) :
    L.caseWord? (word.toList ++ ' ' :: rest) = some (word, ' ' :: rest) := by
  cases hsome : L.caseWord? (word.toList ++ ' ' :: rest) with
  | none => exact absurd (behindWord?_word h rest) (caseWord?_eq_none_iff.mp hsome word h _)
  | some r =>
    obtain ⟨v, tail⟩ := r
    obtain ⟨hv, hbehind⟩ := behindWord?_of_caseWord? hsome
    obtain ⟨letters, heq, hletters, -⟩ := behindWord?_eq_some_iff.mp hbehind
    obtain rfl : v = word := eq_of_letters hv h heq hletters
    rw [Option.some.inj ((behindWord?_word h rest).symm.trans hbehind)]

theorem cut_word {word : String} (h : word ∈ caseWords) {s : L.State} (hs : L.isOuter s)
    (rest : List Char) :
    L.cut s true (word.toList ++ ' ' :: rest) = some ([], word, ' ' :: rest) := by
  have hword := L.caseWord?_word h rest
  obtain ⟨c, cs, hcs⟩ := List.exists_cons_of_ne_nil (List.append_ne_nil_of_right_ne_nil
    word.toList (List.cons_ne_nil ' ' rest))
  rw [hcs] at hword ⊢
  rw [cut, hs, Bool.and_self, if_pos rfl, hword]

/-- A condition is cut off at the `THEN` behind it. -/
theorem cut_condition {text : String} (h : L.IsCondition text) (rest : List Char) :
    L.cut L.start true (' ' :: text.toList ++ ' ' :: "THEN".toList ++ ' ' :: rest) =
      some (' ' :: text.toList ++ [' '], "THEN", ' ' :: rest) := by
  have hstart : L.after L.start ([] ++ [' ']) = L.start := L.next_start rfl
  have hclosed : L.isOuter (L.after L.start (text.toList ++ [' '])) := by
    rw [after_append]
    exact (L.isOuter_next _ rfl).trans h.closes
  have hblank : Text.isBlank ' ' := rfl
  have hcut := cut_append_blank hblank ("THEN".toList ++ ' ' :: rest)
    (cut_eq_none_iff.mpr h.wordless)
  rw [cut_word (by decide) hclosed, Option.map_some] at hcut
  have hnil : L.cut L.start true [] = none := rfl
  have hfirst := cut_append_blank hblank
    (text.toList ++ ' ' :: ("THEN".toList ++ ' ' :: rest)) hnil
  rw [hstart, hcut, Option.map_some] at hfirst
  simpa only [List.nil_append, List.cons_append, List.append_assoc] using hfirst

theorem dropWhile_word {word : String} (h : word ∈ caseWords) (rest : List Char) :
    (word.toList ++ rest).dropWhile Text.isBlank = word.toList ++ rest := by
  simp only [caseWords, List.mem_cons, List.not_mem_nil, or_false] at h
  rcases h with rfl | rfl | rfl | rfl | rfl <;> rfl

section Written

variable {p : Profile}

/-- A case from behind its `WHEN` on. -/
def branchText (p : Profile) (c : ConditionalCase) : String :=
  Text.trim c.condition ++ " THEN " ++ p.quoteLiteral c.result

theorem writeCase_eq (c : ConditionalCase) : p.writeCase c = " WHEN " ++ branchText p c := by
  simp only [Profile.writeCase, branchText, String.append_assoc]

theorem readBranch_branchText {c : ConditionalCase} (hc : L.IsCondition c.condition)
    {word : String} (hword : word ∈ caseWords) (rest : List Char) :
    L.readBranch p (' ' :: (branchText p c).toList ++ ' ' :: word.toList ++ ' ' :: rest) =
      some ((Text.trim c.condition, c.result), word, ' ' :: rest) := by
  have htext : ' ' :: (branchText p c).toList ++ ' ' :: word.toList ++ ' ' :: rest =
      ' ' :: (Text.trim c.condition).toList ++ ' ' :: "THEN".toList ++
        ' ' :: ((p.quoteLiteral c.result).toList ++ ' ' :: (word.toList ++ ' ' :: rest)) := by
    simp [branchText]
  have hcondition : Text.trim (String.ofList (' ' :: (Text.trim c.condition).toList ++ [' '])) =
      Text.trim c.condition := by
    rw [← String.toList_inj, Text.toList_trim, String.toList_ofList,
      Text.trimChars_concat_blank rfl, Text.trimChars_cons_blank rfl, Text.toList_trim,
      Text.trimChars_trimChars]
  have hliteral : p.literalEscape.rule.read ((p.quoteLiteral c.result).toList ++
      ' ' :: (word.toList ++ ' ' :: rest)) =
        some (c.result.toList, ' ' :: (word.toList ++ ' ' :: rest)) :=
    p.read_quoteLiteral c.result fun _ => by simp
  have hbefore (cs : List Char) : (' ' :: ((p.quoteLiteral c.result).toList ++ cs)).dropWhile
      Text.isBlank = (p.quoteLiteral c.result).toList ++ cs := by
    rw [List.dropWhile_cons_of_pos rfl, Profile.toList_quoteLiteral]
    rfl
  have hbehind : (' ' :: (word.toList ++ ' ' :: rest)).dropWhile Text.isBlank =
      word.toList ++ ' ' :: rest := by
    rw [List.dropWhile_cons_of_pos rfl]
    exact dropWhile_word hword _
  rw [htext, readBranch, cut_condition hc.trim, Option.bind_some]
  dsimp only
  rw [if_pos rfl, hbefore, hliteral, Option.bind_some]
  dsimp only
  rw [hbehind, caseWord?_word hword, Option.map_some, hcondition, String.ofList_toList]

/-- All cases are read, up to the `ELSE`. -/
theorem readBranches_writeCase {c : ConditionalCase} {cs : List ConditionalCase}
    (h : ∀ x ∈ c :: cs, L.IsCondition x.condition) (rest : List Char) :
    L.readBranches p (' ' :: (branchText p c).toList ++
        ((String.join (cs.map p.writeCase)).toList ++ ' ' :: "ELSE".toList ++ ' ' :: rest)) =
      some ((c :: cs).map (fun x => (Text.trim x.condition, x.result)), ' ' :: rest) := by
  obtain ⟨hc, hcs⟩ := List.forall_mem_cons.mp h
  induction cs generalizing c with
  | nil =>
    have helse : "ELSE" ∈ caseWords := by decide
    have hread := readBranch_branchText (p := p) hc helse rest
    rw [List.map_nil, String.join_nil, String.toList_empty, List.nil_append, ← List.append_assoc,
      readBranches]
    split
    · next hnone => cases hread.symm.trans hnone
    · next hsome =>
      cases hread.symm.trans hsome
      rfl
  | cons x cs ih =>
    have hwhen : "WHEN" ∈ caseWords := by decide
    have hread := readBranch_branchText (p := p) hc hwhen ((branchText p x).toList ++
        ((String.join (cs.map p.writeCase)).toList ++ ' ' :: "ELSE".toList ++ ' ' :: rest))
    have htext : ' ' :: (branchText p c).toList ++
          ((String.join ((x :: cs).map p.writeCase)).toList ++
            ' ' :: "ELSE".toList ++ ' ' :: rest) =
        ' ' :: (branchText p c).toList ++ ' ' :: "WHEN".toList ++ ' ' :: ((branchText p x).toList ++
        ((String.join (cs.map p.writeCase)).toList ++ ' ' :: "ELSE".toList ++ ' ' :: rest)) := by
      simp [writeCase_eq, String.join_cons]
    obtain ⟨hx, hrest⟩ := List.forall_mem_cons.mp hcs
    have hmore := ih hcs hx hrest
    rw [htext, readBranches]
    split
    · next hnone => cases hread.symm.trans hnone
    · next hsome =>
      cases hread.symm.trans hsome
      rw [List.cons_append] at hmore
      rw [if_pos rfl, hmore]
      rfl

theorem beforeEnd?_append (cs : List Char) :
    beforeEnd? (' ' :: cs ++ ' ' :: "END".toList) = some cs := by
  have hdrop : Text.dropWord? " END".toList.reverse (cs ++ " END".toList).reverse =
      some cs.reverse :=
    Text.dropWord?_eq_some_iff.mpr List.reverse_append
  change (Text.dropWord? " END".toList.reverse (cs ++ " END".toList).reverse).map _ = _
  rw [hdrop, Option.map_some, List.reverse_reverse]

/-- A written case distinction is read back: its conditions without the blanks at their ends, each
with its result, in their order, and the text for all other cases. -/
theorem readCases_writeCases {cases : List ConditionalCase} (hne : cases ≠ [])
    (h : ∀ c ∈ cases, L.IsCondition c.condition) (otherwise : String) :
    L.readCases p (p.writeCases cases otherwise) =
      some ⟨cases.map fun c => (Text.trim c.condition, c.result), otherwise⟩ := by
  obtain ⟨c, cs, rfl⟩ := List.exists_cons_of_ne_nil hne
  have htext : (p.writeCases (c :: cs) otherwise).toList =
      "CASE".toList ++ ' ' :: ("WHEN".toList ++ (' ' :: (branchText p c).toList ++
        ((String.join (cs.map p.writeCase)).toList ++ ' ' :: "ELSE".toList ++
          ' ' :: (otherwise.toList ++ ' ' :: "END".toList)))) := by
    simp [Profile.writeCases, writeCase_eq, String.join_cons]
  rw [readCases, htext, behindWord?_word (by decide), Option.bind_some,
    List.dropWhile_cons_of_pos rfl, dropWhile_word (by decide), List.cons_append,
    behindWord?_word (by decide), Option.bind_some, ← List.cons_append, readBranches_writeCase h,
    Option.bind_some]
  dsimp only
  rw [← List.cons_append, beforeEnd?_append, Option.map_some, String.ofList_toList]

end Written

end Lexis

end CleanSql
