import CleanSql.Proofs.Quoting.Relation
import CleanSql.Proofs.Split.Parts
import CleanSql.Proofs.Value.Expression

/-!
# Values of expressions that take parts of texts

Expressions are evaluated as they are written: quoted identifiers, literals, numbers, calls of
functions, and elements of arrays. Of the functions only what engines document is assumed
(`SplitEngine`). An expression has a value if it is read as this value wherever an expression can
stand (`Profile.Evaluates`), and then it has no other (`Profile.Evaluates.unique`).
-/
namespace CleanSql

namespace Text

/-- The parts of a text between the occurrences of a delimiter, taken from left to right. -/
def split (delimiter s : String) : List String :=
  match delimiter.toList with
  | [] => [s]
  | w :: word => (parts w word s.toList).map String.ofList

/-- What is before an occurrence of a word, counted from one; all if there are fewer. -/
def beforeOccurrence (word : String) (count : ℕ) (s : String) : String :=
  String.ofList (upTo word.toList count s.toList)

/-- What is behind the last occurrence of a word; all if there is none. -/
def behindLast (word s : String) : String := String.ofList (afterLast word.toList s.toList)

end Text

inductive SqlValue where
  | null
  | text (value : String)
  | number (value : ℤ)
  | array (parts : List String)
  /-- A place in an array, which may be outside of it. -/
  | offset (place : ℤ)
  deriving DecidableEq, Repr

namespace SqlValue

def ofOption (value : Option String) : SqlValue := value.elim null text

def element : SqlValue → SqlValue → SqlValue
  | array parts, offset (.ofNat n) => ofOption parts[n]?
  | _, _ => null

end SqlValue

/-- What engines document of the functions that take parts of texts. -/
structure SplitEngine where
  call : String → List SqlValue → SqlValue
  /-- The part with a number counted from one; empty if there is none. -/
  splitPart {delimiter : String} (h : delimiter ≠ "") (s : String) (n : ℕ) :
    call "SPLIT_PART" [.text s, .text delimiter, .number (n + 1 : ℕ)] =
      .text ((Text.split delimiter s)[n]?.getD "")
  split {delimiter : String} (h : delimiter ≠ "") (s : String) :
    call "SPLIT" [.text s, .text delimiter] = .array (Text.split delimiter s)
  safeOffset (n : ℤ) : call "SAFE_OFFSET" [.number n] = .offset n
  beforeOccurrence {delimiter : String} (h : delimiter ≠ "") (s : String) (n : ℕ) :
    call "SUBSTRING_INDEX" [.text s, .text delimiter, .number (n + 1 : ℕ)] =
      .text (Text.beforeOccurrence delimiter (n + 1) s)
  behindLast {delimiter : String} (h : delimiter ≠ "") (s : String) :
    call "SUBSTRING_INDEX" [.text s, .text delimiter, .number (-1)] =
      .text (Text.behindLast delimiter s)

/-- The engine whose functions do what is documented, and give null for all else. -/
def SplitEngine.documented : SplitEngine where
  call
    | "SPLIT_PART", [.text s, .text delimiter, .number (.ofNat (n + 1))] =>
      .text ((Text.split delimiter s)[n]?.getD "")
    | "SPLIT", [.text s, .text delimiter] => .array (Text.split delimiter s)
    | "SAFE_OFFSET", [.number n] => .offset n
    | "SUBSTRING_INDEX", [.text s, .text delimiter, .number (.ofNat (n + 1))] =>
      .text (Text.beforeOccurrence delimiter (n + 1) s)
    | "SUBSTRING_INDEX", [.text s, .text delimiter, .number (.negSucc 0)] =>
      .text (Text.behindLast delimiter s)
    | _, _ => .null
  splitPart _ _ _ := rfl
  split _ _ := rfl
  safeOffset _ := rfl
  beforeOccurrence _ _ _ := rfl
  behindLast _ _ := rfl

section Numbers

def readDigits (cs : List Char) : Option (ℕ × List Char) :=
  if cs.takeWhile Char.isDigit = [] then none
  else some (Nat.ofDigitChars 10 (cs.takeWhile Char.isDigit) 0, cs.dropWhile Char.isDigit)

def readNumber : List Char → Option (SqlValue × List Char)
  | '-' :: cs => (readDigits cs).map fun r => (.number (-r.1), r.2)
  | cs => (readDigits cs).map fun r => (.number r.1, r.2)

theorem readDigits_eq_none {c : Char} (h : c.isDigit = false) (cs : List Char) :
    readDigits (c :: cs) = none := by
  rw [readDigits, List.takeWhile_cons_of_neg (by simp [h]), if_pos rfl]

theorem readDigits_toString (n : ℕ) {rest : List Char} (h : ∀ c ∈ rest.head?, c.isDigit = false) :
    readDigits ((toString n).toList ++ rest) = some (n, rest) := by
  have hdigits : ∀ c ∈ Nat.toDigits 10 n, c.isDigit := fun c hc =>
    Nat.isDigit_of_mem_toDigits (by decide) (by decide) hc
  have hrest : rest.takeWhile Char.isDigit = [] ∧ rest.dropWhile Char.isDigit = rest := by
    cases rest with
    | nil => exact ⟨rfl, rfl⟩
    | cons c rest =>
      have hc := h c rfl
      exact ⟨List.takeWhile_cons_of_neg (by simp [hc]), List.dropWhile_cons_of_neg (by simp [hc])⟩
  rw [Nat.toString_eq_ofList_toDigits, String.toList_ofList, readDigits,
    List.takeWhile_append_of_pos hdigits, List.dropWhile_append_of_pos hdigits, hrest.1, hrest.2,
    List.append_nil, if_neg Nat.toDigits_ne_nil, Nat.ofDigitChars_ten_toDigits]

theorem readNumber_of_ne {cs : List Char} (h : cs.head? ≠ some '-') :
    readNumber cs = (readDigits cs).map fun r => (.number r.1, r.2) := by
  unfold readNumber
  split
  · exact absurd rfl h
  · rfl

end Numbers

def subscript (evaluate : List Char → Option (SqlValue × List Char)) (value : SqlValue) :
    List Char → Option (SqlValue × List Char)
  | '[' :: rest =>
    match evaluate rest with
    | some (place, ']' :: rest) => some (value.element place, rest)
    | _ => none
  | rest => some (value, rest)

section Names

def isNameChar (c : Char) : Bool := c.isUpper || c = '_'

def IsFunctionName (name : String) : Prop := name.toList ≠ [] ∧ name.toList.all isNameChar

instance (name : String) : Decidable (IsFunctionName name) := inferInstanceAs (Decidable (_ ∧ _))

theorem isDigit_eq_false_of_isNameChar {c : Char} (h : isNameChar c) : c.isDigit = false := by
  rw [isNameChar, Bool.or_eq_true, Text.isUpper_iff_range, decide_eq_true_eq] at h
  obtain h | rfl := h
  · rw [Bool.eq_false_iff, Ne, Text.isDigit_iff_range]
    omega
  · decide

theorem IsFunctionName.read {name : String} (h : IsFunctionName name) (rest : List Char) :
    (name.toList ++ '(' :: rest).takeWhile isNameChar = name.toList ∧
      (name.toList ++ '(' :: rest).dropWhile isNameChar = '(' :: rest := by
  have hchars := List.all_eq_true.mp h.2
  rw [List.takeWhile_append_of_pos hchars, List.dropWhile_append_of_pos hchars]
  exact ⟨by simp [isNameChar], rfl⟩

def callText (name : String) (args : List String) : String :=
  name ++ "(" ++ String.intercalate ", " args ++ ")"

theorem toList_callText (name : String) (args : List String) : (callText name args).toList =
    name.toList ++ '(' :: ((String.intercalate ", " args).toList ++ [')']) := by
  rw [callText, String.toList_append, String.toList_append, String.toList_append,
    List.append_assoc, List.append_assoc]
  rfl

end Names

namespace Profile

variable (p : Profile) (g : SplitEngine) (row : Row)

def evaluateColumn (cs : List Char) : Option (SqlValue × List Char) :=
  (p.identifierQuote.rule.read cs).map fun r => (.ofOption (row (String.ofList r.1)), r.2)

def evaluateLiteral (cs : List Char) : Option (SqlValue × List Char) :=
  (p.literalEscape.rule.read cs).map fun r => (.text (String.ofList r.1), r.2)

mutual

/-- Evaluates the expression at the start of a text, in a row: its value, and what is left behind
it. -/
def evaluate : ℕ → List Char → Option (SqlValue × List Char)
  | 0, _ => none
  | fuel + 1, cs =>
    (p.evaluateColumn row cs).or <| (p.evaluateLiteral cs).or <| (readNumber cs).or <|
      match cs.dropWhile isNameChar with
      | '(' :: rest =>
        (evaluateArguments fuel rest).bind fun r =>
          subscript (evaluate fuel) (g.call (String.ofList (cs.takeWhile isNameChar)) r.1) r.2
      | _ => none

/-- Evaluates what is between the parentheses of a call, and reads over the closing one. -/
def evaluateArguments : ℕ → List Char → Option (List SqlValue × List Char)
  | 0, _ => none
  | fuel + 1, cs =>
    match evaluate fuel cs with
    | some (value, ')' :: rest) => some ([value], rest)
    | some (value, ',' :: ' ' :: rest) =>
      (evaluateArguments fuel rest).map fun r => (value :: r.1, r.2)
    | _ => none

end

/-- What may come behind an expression, so that it is not read on. -/
def Ends (rest : List Char) : Prop :=
  ∀ c ∈ rest.head?, c ∈ [')', ',', ']'] ∧ c ≠ p.identifierQuote.closing

/-- An expression has a value, wherever it stands. -/
def Evaluates (e : String) (v : SqlValue) : Prop :=
  ∀ fuel rest, e.toList.length < fuel → p.Ends rest →
    p.evaluate g row fuel (e.toList ++ rest) = some (v, rest)

variable {p g row}

theorem ends_cons {c : Char} (h : c = ')' ∨ c = ',') (rest : List Char) : p.Ends (c :: rest) := by
  rintro _ ⟨⟩
  obtain rfl | rfl := h <;> cases p.identifierQuote <;> decide

theorem Ends.not_digit {rest : List Char} (h : p.Ends rest) :
    ∀ c ∈ rest.head?, c.isDigit = false := by
  intro c hc
  have hmem := (h c hc).1
  simp only [List.mem_cons, List.not_mem_nil, or_false] at hmem
  obtain rfl | rfl | rfl := hmem <;> rfl

theorem Ends.head?_ne {rest : List Char} (h : p.Ends rest) {c : Char} (hc : c ∉ [')', ',', ']']) :
    rest.head? ≠ some c := fun hhead => hc (h c hhead).1

theorem Evaluates.unique {e : String} {v v' : SqlValue} (h : p.Evaluates g row e v)
    (h' : p.Evaluates g row e v') : v = v' := by
  have hnil : p.Ends [] := nofun
  have hvalue := (h _ [] (Nat.lt_succ_self _) hnil).symm.trans (h' _ [] (Nat.lt_succ_self _) hnil)
  exact congrArg Prod.fst (Option.some.inj hvalue)

theorem evaluates_of_succ {e : String} {v : SqlValue}
    (h : ∀ fuel rest, e.toList.length ≤ fuel → p.Ends rest →
      p.evaluate g row (fuel + 1) (e.toList ++ rest) = some (v, rest)) : p.Evaluates g row e v := by
  intro fuel rest hfuel hrest
  obtain ⟨fuel, rfl⟩ := Nat.exists_eq_add_one_of_ne_zero (Nat.ne_zero_of_lt hfuel)
  exact h fuel rest (Nat.lt_succ_iff.mp hfuel) hrest

section Atoms

theorem evaluateColumn_eq_none {c : Char} (h : c ≠ p.identifierQuote.opening) (cs : List Char) :
    p.evaluateColumn row (c :: cs) = none := by
  rw [evaluateColumn, QuoteRule.read, if_neg (by exact h), Option.map_none]

theorem evaluateLiteral_eq_none {c : Char} (h : c ≠ '\'') (cs : List Char) :
    p.evaluateLiteral (c :: cs) = none := by
  rw [evaluateLiteral, QuoteRule.read, LiteralEscape.opening_rule, if_neg h, Option.map_none]

theorem evaluates_column (name : String) :
    p.Evaluates g row (p.quoteIdentifier name) (.ofOption (row name)) := by
  refine evaluates_of_succ fun fuel rest _ hrest => ?_
  have hread := p.read_quoteIdentifier name fun hhead => (hrest _ hhead).2 rfl
  rw [evaluate, evaluateColumn, hread, Option.map_some, Option.some_or, String.ofList_toList]

/-- A quote of a literal does not open an identifier. -/
theorem quote_ne_opening : '\'' ≠ p.identifierQuote.opening := by
  cases p.identifierQuote <;> decide

theorem evaluates_literal (value : String) :
    p.Evaluates g row (p.quoteLiteral value) (.text value) := by
  refine evaluates_of_succ fun fuel rest _ hrest => ?_
  have hread := p.read_quoteLiteral value fun _ => hrest.head?_ne (c := '\'') (by decide)
  have hcolumn : p.evaluateColumn row ((p.quoteLiteral value).toList ++ rest) = none := by
    rw [toList_quoteLiteral]
    exact evaluateColumn_eq_none quote_ne_opening _
  rw [evaluate, hcolumn, Option.none_or, evaluateLiteral, hread, Option.map_some, Option.some_or,
    String.ofList_toList]

theorem evaluates_of_readNumber {e : String} {n : ℤ} {c : Char} {cs : List Char}
    (he : e.toList = c :: cs) (hc : c.isDigit ∨ c = '-')
    (hread : ∀ rest, (∀ c ∈ rest.head?, c.isDigit = false) →
      readNumber (e.toList ++ rest) = some (.number n, rest)) :
    p.Evaluates g row e (.number n) := by
  refine evaluates_of_succ fun fuel rest _ hrest => ?_
  have hne (quote : Char) (hquote : quote.isDigit = false ∧ quote ≠ '-') : c ≠ quote := by
    rintro rfl
    obtain hdigit | hsign := hc
    · cases hquote.1.symm.trans hdigit
    · exact hquote.2 hsign
  have hcolumn : p.evaluateColumn row (e.toList ++ rest) = none := by
    rw [he]
    exact evaluateColumn_eq_none (hne _ (by cases p.identifierQuote <;> decide)) _
  have hliteral : p.evaluateLiteral (e.toList ++ rest) = none := by
    rw [he]
    exact evaluateLiteral_eq_none (hne _ (by decide)) _
  rw [evaluate, hcolumn, Option.none_or, hliteral, Option.none_or, hread rest hrest.not_digit,
    Option.some_or]

theorem evaluates_natural (n : ℕ) : p.Evaluates g row (toString n) (.number n) := by
  obtain ⟨c, cs, hcs⟩ := List.exists_cons_of_ne_nil (Nat.toDigits_ne_nil (n := n) (b := 10))
  have hc : c.isDigit :=
    Nat.isDigit_of_mem_toDigits (by decide) (by decide) (hcs ▸ List.mem_cons_self)
  have htext : (toString n).toList = c :: cs := by
    rw [Nat.toString_eq_ofList_toDigits, String.toList_ofList, hcs]
  refine evaluates_of_readNumber htext (.inl hc) fun rest hrest => ?_
  have hsign : ((toString n).toList ++ rest).head? ≠ some '-' := by
    rw [htext]
    rintro ⟨⟩
    cases hc
  rw [readNumber_of_ne hsign, readDigits_toString n hrest, Option.map_some]

theorem evaluates_negative (n : ℕ) : p.Evaluates g row ("-" ++ toString n) (.number (-n)) := by
  have htext : ("-" ++ toString n).toList = '-' :: (toString n).toList := String.toList_append
  refine evaluates_of_readNumber htext (.inr rfl) fun rest hrest => ?_
  rw [htext, List.cons_append, readNumber, readDigits_toString n hrest, Option.map_some]

end Atoms

section Calls

theorem evaluateArguments_last {arg : String} {value : SqlValue} (h : p.Evaluates g row arg value)
    {fuel : ℕ} (hfuel : arg.toList.length < fuel) (rest : List Char) :
    p.evaluateArguments g row (fuel + 1) (arg.toList ++ ')' :: rest) = some ([value], rest) := by
  rw [evaluateArguments, h fuel _ hfuel (ends_cons (.inl rfl) rest)]
  rfl

theorem evaluateArguments_more {arg : String} {value : SqlValue} (h : p.Evaluates g row arg value)
    {fuel : ℕ} (hfuel : arg.toList.length < fuel) (rest : List Char) :
    p.evaluateArguments g row (fuel + 1) (arg.toList ++ ',' :: ' ' :: rest) =
      (p.evaluateArguments g row fuel rest).map fun r => (value :: r.1, r.2) := by
  rw [evaluateArguments, h fuel _ hfuel (ends_cons (.inr rfl) _)]
  rfl

theorem evaluateArguments_joined {args : List String} {values : List SqlValue}
    (h : List.Forall₂ (p.Evaluates g row) args values) (hne : args ≠ []) {fuel : ℕ}
    (hfuel : (String.intercalate ", " args).toList.length < fuel) (rest : List Char) :
    p.evaluateArguments g row (fuel + 1) ((String.intercalate ", " args).toList ++ ')' :: rest) =
      some (values, rest) := by
  induction h generalizing fuel with
  | nil => exact absurd rfl hne
  | @cons arg value args values harg hargs ih =>
    cases args with
    | nil =>
      cases hargs
      rw [String.intercalate_singleton] at hfuel ⊢
      exact evaluateArguments_last harg hfuel rest
    | cons next args =>
      have hjoin : (String.intercalate ", " (arg :: next :: args)).toList =
          arg.toList ++ ',' :: ' ' :: (String.intercalate ", " (next :: args)).toList := by
        rw [String.intercalate_cons_of_ne_nil (List.cons_ne_nil _ _), String.toList_append,
          String.toList_append, List.append_assoc]
        rfl
      rw [hjoin, List.length_append, List.length_cons, List.length_cons] at hfuel
      obtain ⟨fuel, rfl⟩ := Nat.exists_eq_add_one_of_ne_zero (Nat.ne_zero_of_lt hfuel)
      rw [hjoin, List.append_assoc, List.cons_append, List.cons_append,
        evaluateArguments_more harg (by omega), ih (List.cons_ne_nil _ _) (by omega),
        Option.map_some]

theorem evaluate_name {name : String} (h : IsFunctionName name) (fuel : ℕ) (rest : List Char) :
    p.evaluate g row (fuel + 1) (name.toList ++ '(' :: rest) =
      (p.evaluateArguments g row fuel rest).bind fun r =>
        subscript (p.evaluate g row fuel) (g.call name r.1) r.2 := by
  obtain ⟨c, cs, hcs⟩ := List.exists_cons_of_ne_nil h.1
  have hc : isNameChar c := List.all_eq_true.mp h.2 c (hcs ▸ List.mem_cons_self)
  have hne {other : Char} (hother : isNameChar other = false) : c ≠ other := by
    rintro rfl
    cases hother.symm.trans hc
  have hcolumn (cs : List Char) : p.evaluateColumn row (c :: cs) = none :=
    evaluateColumn_eq_none (hne (by cases p.identifierQuote <;> decide)) cs
  have hliteral (cs : List Char) : p.evaluateLiteral (c :: cs) = none :=
    evaluateLiteral_eq_none (hne (by decide)) cs
  have hnumber (cs : List Char) : readNumber (c :: cs) = none := by
    have hsign : (c :: cs).head? ≠ some '-' := fun hhead => hne rfl (Option.some.inj hhead)
    rw [readNumber_of_ne hsign, readDigits_eq_none (isDigit_eq_false_of_isNameChar hc),
      Option.map_none]
  rw [evaluate, (h.read rest).1, (h.read rest).2, String.ofList_toList, hcs, List.cons_append,
    hcolumn, hliteral, hnumber]
  rfl

/-- First the arguments are evaluated, then the function, then the place that is taken of what it
gives. -/
theorem evaluate_call {name : String} (hname : IsFunctionName name) {args : List String}
    {values : List SqlValue} (h : List.Forall₂ (p.Evaluates g row) args values) (hne : args ≠ [])
    {fuel : ℕ} (hfuel : (callText name args).toList.length ≤ fuel) (rest : List Char) :
    p.evaluate g row (fuel + 1) ((callText name args).toList ++ rest) =
      subscript (p.evaluate g row fuel) (g.call name values) rest := by
  have hlength := List.length_pos_iff.mpr hname.1
  rw [toList_callText] at hfuel ⊢
  simp only [List.length_append, List.length_cons, List.length_nil] at hfuel
  obtain ⟨fuel, rfl⟩ : ∃ n, fuel = n + 1 := ⟨fuel - 1, by omega⟩
  rw [List.append_assoc, List.cons_append, List.append_assoc, List.singleton_append,
    evaluate_name hname, evaluateArguments_joined h hne (by omega), Option.bind_some]

theorem evaluates_call {name : String} (hname : IsFunctionName name) {args : List String}
    {values : List SqlValue} (h : List.Forall₂ (p.Evaluates g row) args values) (hne : args ≠ []) :
    p.Evaluates g row (callText name args) (g.call name values) := by
  refine evaluates_of_succ fun fuel rest hfuel hrest => ?_
  rw [evaluate_call hname h hne hfuel]
  have hopen := hrest.head?_ne (c := '[') (by decide)
  unfold subscript
  split
  · exact absurd rfl hopen
  · rfl

theorem evaluates_element {name : String} (hname : IsFunctionName name) {args : List String}
    {values : List SqlValue} (h : List.Forall₂ (p.Evaluates g row) args values) (hne : args ≠ [])
    {place : String} {i : SqlValue} (hplace : p.Evaluates g row place i)
    (hclosing : p.identifierQuote.closing ≠ ']') :
    p.Evaluates g row (callText name args ++ "[" ++ place ++ "]")
      ((g.call name values).element i) := by
  refine evaluates_of_succ fun fuel rest hfuel hrest => ?_
  have htext : (callText name args ++ "[" ++ place ++ "]").toList =
      (callText name args).toList ++ '[' :: (place.toList ++ [']']) := by
    rw [String.toList_append, String.toList_append, String.toList_append, List.append_assoc,
      List.append_assoc]
    rfl
  have hends : p.Ends (']' :: rest) := by
    rintro _ ⟨⟩
    exact ⟨by decide, hclosing.symm⟩
  rw [htext, List.length_append, List.length_cons, List.length_append] at hfuel
  rw [htext, List.append_assoc, List.cons_append, List.append_assoc, List.singleton_append,
    evaluate_call hname h hne (by omega), subscript, hplace fuel _ (by omega) hends]
  rfl

end Calls

end Profile

end CleanSql
