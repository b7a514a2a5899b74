import CleanSql.Proofs.TitleCase.Words
import CleanSql.Proofs.Occurrence

/-!
# Expressions with queries in them

Expressions are read as they are written, some of them with a query that makes rows of a text and
puts texts from these rows together in an order. What is read is a meaning: a value wherever the
names in it have values. Of the functions, and of what makes rows, only what engines document is
assumed (`WordEngine`). Rows come in any order (`SqlValue.join_of_perm`). An expression has a
meaning if it is read so wherever it can stand (`Profile.Means`), and then it has no other.
-/
namespace CleanSql

namespace SqlValue

def text? : SqlValue → Option String
  | text s => some s
  | _ => none

/-- The number that rows are put in order by. -/
def rank : SqlValue → ℤ
  | number n => n
  | _ => 0

/-- Texts in the order of the numbers beside them, with a separator between them. Nulls are left
out, and null comes of no texts. -/
def join (separator : SqlValue) (rows : List (SqlValue × SqlValue)) : SqlValue :=
  let texts := (rows.mergeSort fun a b => a.2.rank ≤ b.2.rank).filterMap fun r => r.1.text?
  match separator with
  | text between => if texts = [] then null else text (String.intercalate between texts)
  | _ => null

def numbered (texts : List String) : List (SqlValue × SqlValue) :=
  (texts.zipIdx 1).map fun t => (text t.1, number t.2)

theorem pairwise_numbered (texts : List String) :
    (numbered texts).Pairwise fun a b => a.2.rank < b.2.rank := by
  have hplaces : (texts.zipIdx 1).Pairwise fun a b => a.2 < b.2 := by
    rw [← List.pairwise_map, List.zipIdx_map_snd]
    exact List.pairwise_lt_range'
  rw [numbered, List.pairwise_map]
  exact hplaces.imp fun h => Int.ofNat_lt.mpr h

/-- Whatever order the rows come in, they are put in the order of their numbers. -/
theorem mergeSort_of_perm {rows rows' : List (SqlValue × SqlValue)} (h : rows.Perm rows')
    (hrows : rows'.Pairwise fun a b => a.2.rank < b.2.rank) :
    (rows.mergeSort fun a b => a.2.rank ≤ b.2.rank) = rows' := by
  have hsorted : (rows.mergeSort fun a b => a.2.rank ≤ b.2.rank).Pairwise
      fun a b => a.2.rank ≤ b.2.rank := by
    refine (List.pairwise_mergeSort (fun a b c hab hbc => ?_) (fun a b => ?_) rows).imp
      fun h => of_decide_eq_true h
    · exact decide_eq_true (Int.le_trans (of_decide_eq_true hab) (of_decide_eq_true hbc))
    · simpa using Int.le_total a.2.rank b.2.rank
  have hperm := (List.mergeSort_perm rows fun a b => a.2.rank ≤ b.2.rank).trans h
  have hnodup : (rows'.map fun a => a.2.rank).Nodup :=
    List.pairwise_map.mpr (hrows.imp Int.ne_of_lt)
  -- Different rows have different numbers, so there is only one such order.
  refine hperm.eq_of_pairwise (fun a b ha hb hab hba => ?_) hsorted (hrows.imp Int.le_of_lt)
  exact List.inj_on_of_nodup_map hnodup (hperm.mem_iff.mp ha) hb (Int.le_antisymm hab hba)

theorem join_of_perm {rows : List (SqlValue × SqlValue)} {texts : List String} (hne : texts ≠ [])
    (h : rows.Perm (numbered texts)) (between : String) :
    join (text between) rows = text (String.intercalate between texts) := by
  have htexts : (numbered texts).filterMap (fun r => r.1.text?) = texts := by
    rw [numbered, List.filterMap_map]
    have hsome : (fun t : String × ℕ => (text t.1).text?) = some ∘ Prod.fst := rfl
    change (texts.zipIdx 1).filterMap (fun t => (text t.1).text?) = texts
    rw [hsome, List.filterMap_eq_map, List.zipIdx_map_fst]
  rw [join, mergeSort_of_perm h (pairwise_numbered texts), htexts]
  exact if_neg hne

theorem map_numbered {texts : List String} {f : SqlValue × SqlValue → SqlValue × SqlValue}
    {g : String → String} (h : ∀ t ∈ texts, ∀ n, f (text t, n) = (text (g t), n)) :
    (numbered texts).map f = numbered (texts.map g) := by
  rw [numbered, numbered, List.map_map, List.zipIdx_map, List.map_map]
  refine List.map_congr_left fun t ht => ?_
  exact h t.1 (List.fst_mem_of_mem_zipIdx ht) _

end SqlValue

/-- What the names in an expression stand for: columns of a row, and fields of the row that an alias
runs over. -/
structure Scope where
  row : Row
  field : String → String → SqlValue := fun _ _ => .null

/-- Inside of a query, its alias runs over a row of its own. -/
def Scope.enter (s : Scope) (table : String) (fields : List (String × SqlValue)) : Scope where
  row := s.row
  field a f := if a = table then (fields.lookup f).getD .null else s.field a f

/-- The value of an expression wherever its names stand for something. -/
abbrev Meaning := Scope → SqlValue

/-- What engines document of the functions on texts, and of those that make rows of texts. -/
structure WordEngine where
  upper : String → String
  lower : String → String
  call : String → List SqlValue → SqlValue
  add : SqlValue → SqlValue → SqlValue
  /-- The rows of `STRING_SPLIT`, of a value and its ordinal. -/
  splitRows : SqlValue → SqlValue → SqlValue → List (SqlValue × SqlValue)
  /-- The rows of `JSON_TABLE`, of the text at a path inside of each element at a path, and its
  ordinal. -/
  elementRows : SqlValue → SqlValue → SqlValue → List (SqlValue × SqlValue)
  upper_empty : upper "" = ""
  lower_empty : lower "" = ""
  call_upper (s : String) : call "UPPER" [.text s] = .text (upper s)
  call_lower (s : String) : call "LOWER" [.text s] = .text (lower s)
  call_concat (s t : String) : call "CONCAT" [.text s, .text t] = .text (s ++ t)
  add_text (s t : String) : add (.text s) (.text t) = .text (s ++ t)
  /-- Places in a text are counted from one. -/
  call_substring (s : String) (n k : ℕ) :
    call "SUBSTRING" [.text s, .number (n + 1 : ℕ), .number k] =
      .text (String.ofList ((s.toList.drop n).take k))
  call_substring_from (s : String) (n : ℕ) :
    call "SUBSTRING" [.text s, .number (n + 1 : ℕ)] = .text (String.ofList (s.toList.drop n))
  /-- Spaces at the end do not count. -/
  call_len (s : String) : call "LEN" [.text s] = .number (s.toList.rdropWhile (· = ' ')).length
  call_replace {word : String} (h : word ≠ "") (s other : String) :
    call "REPLACE" [.text s, .text word, .text other] = .text (Text.replace word other s)
  /-- Quotes, backslashes and control characters are escaped, other characters may be, and spaces
  are not. -/
  call_jsonArray (s : String) : ∃ e : Char → List Char, (∀ c, Json.Spells c (e c)) ∧
    e ' ' = [' '] ∧ call "JSON_ARRAY" [.text s] = .text (Json.singletonText e s)
  splitRows_perm (s : String) (c : Char) :
    (splitRows (.text s) (.text (String.singleton c)) (.number 1)).Perm
      (SqlValue.numbered (Text.split (String.singleton c) s))
  elementRows_perm {document : String} {texts : List String}
    (h : Json.meaning document = .list (texts.map .text)) :
    (elementRows (.text document) (.text "$[*]") (.text "$")).Perm (SqlValue.numbered texts)

def Json.Value.texts : Json.Value → List String
  | list items => items.filterMap fun
    | text s => some s
    | _ => none
  | _ => []

theorem Json.Value.texts_list_map (texts : List String) :
    (Json.Value.list (texts.map .text)).texts = texts := by
  rw [Json.Value.texts, List.filterMap_map]
  exact List.filterMap_some

/-- The engine whose functions do what is documented, letter by letter, and give null or no rows for
all else. -/
def WordEngine.documented : WordEngine where
  upper := String.map Char.toUpper
  lower := String.map Char.toLower
  call
    | "UPPER", [.text s] => .text (s.map Char.toUpper)
    | "LOWER", [.text s] => .text (s.map Char.toLower)
    | "CONCAT", [.text s, .text t] => .text (s ++ t)
    | "SUBSTRING", [.text s, .number (.ofNat (n + 1)), .number (.ofNat k)] =>
      .text (String.ofList ((s.toList.drop n).take k))
    | "SUBSTRING", [.text s, .number (.ofNat (n + 1))] =>
      .text (String.ofList (s.toList.drop n))
    | "LEN", [.text s] => .number (s.toList.rdropWhile (· = ' ')).length
    | "REPLACE", [.text s, .text word, .text other] => .text (Text.replace word other s)
    | "JSON_ARRAY", [.text s] => .text (Json.singletonText Json.escape s)
    | _, _ => .null
  add
    | .text s, .text t => .text (s ++ t)
    | _, _ => .null
  splitRows
    | .text s, .text delimiter, .number 1 => SqlValue.numbered (Text.split delimiter s)
    | _, _, _ => []
  elementRows
    | .text document, .text "$[*]", .text "$" =>
      SqlValue.numbered (Json.meaning document).texts
    | _, _, _ => []
  upper_empty := by simp
  lower_empty := by simp
  call_upper _ := rfl
  call_lower _ := rfl
  call_concat _ _ := rfl
  add_text _ _ := rfl
  call_substring _ _ _ := rfl
  call_substring_from _ _ := rfl
  call_len _ := rfl
  call_replace _ _ _ := rfl
  call_jsonArray _ := ⟨Json.escape, Json.spells_escape, by decide, rfl⟩
  splitRows_perm _ _ := .refl _
  elementRows_perm {document texts} h := by
    change (SqlValue.numbered (Json.meaning document).texts).Perm _
    rw [h, Json.Value.texts_list_map]

/-- What stands in a hole of a form: an expression or a name. -/
inductive Hole where
  | expression
  | name
  deriving DecidableEq, Repr

inductive Part where
  | expression (m : Meaning)
  | name (word : String)

/-- The characters that may come behind an expression or a name. -/
def partEnds : List Char := [')', ',', ' ']

/-- A form that expressions are written in: how it begins, and its holes with what is behind each of
them. -/
structure Form where
  opening : String
  holes : List (Hole × String)
  meaning : List Part → Meaning
  opening_head : opening.toList.head? = some '('
  holes_end : ∀ hole ∈ holes, hole.2.toList.head?.any partEnds.contains

namespace WordEngine

variable (g : WordEngine)

def splitForm : Form where
  opening := "(SELECT STRING_AGG("
  holes := [(.expression, ", "), (.expression, ") WITHIN GROUP (ORDER BY "),
    (.expression, ") FROM STRING_SPLIT("), (.expression, ", "), (.expression, ", "),
    (.expression, ") AS "), (.name, ")")]
  meaning
    | [.expression value, .expression between, .expression key, .expression text,
        .expression delimiter, .expression ordinals, .name table] => fun s =>
      .join (between s) <| (g.splitRows (text s) (delimiter s) (ordinals s)).map fun r =>
        let inner := s.enter table [("value", r.1), ("ordinal", r.2)]
        (value inner, key inner)
    | _ => fun _ => .null
  opening_head := rfl
  holes_end := by decide

def elementForm : Form where
  opening := "(SELECT GROUP_CONCAT("
  holes := [(.expression, " ORDER BY "), (.expression, " SEPARATOR "),
    (.expression, ") FROM JSON_TABLE("), (.expression, ", "), (.expression, " COLUMNS ("),
    (.name, " FOR ORDINALITY, "), (.name, " TEXT PATH "), (.expression, ")) AS "), (.name, ")")]
  meaning
    | [.expression value, .expression key, .expression between, .expression document,
        .expression path, .name ordinal, .name element, .expression inside, .name table] => fun s =>
      .join (between s) <| (g.elementRows (document s) (path s) (inside s)).map fun r =>
        let inner := s.enter table [(element, r.1), (ordinal, r.2)]
        (value inner, key inner)
    | _ => fun _ => .null
  opening_head := rfl
  holes_end := by decide

def sumForm : Form where
  opening := "("
  holes := [(.expression, " + "), (.expression, ")")]
  meaning
    | [.expression a, .expression b] => fun s => g.add (a s) (b s)
    | _ => fun _ => .null
  opening_head := rfl
  holes_end := by decide

def forms : List Form := [g.splitForm, g.elementForm, g.sumForm]

end WordEngine

section Names

theorem isDigit_eq_false_of_isLower {c : Char} (h : c.isLower) : c.isDigit = false := by
  rw [Text.isLower_iff_range] at h
  rw [Bool.eq_false_iff, Ne, Text.isDigit_iff_range]
  omega

theorem isLower_eq_false_of_isNameChar {c : Char} (h : isNameChar c) : c.isLower = false := by
  rw [isNameChar, Bool.or_eq_true, Text.isUpper_iff_range, decide_eq_true_eq] at h
  obtain h | rfl := h
  · rw [Bool.eq_false_iff, Ne, Text.isLower_iff_range]
    omega
  · decide

def IsName (word : String) : Prop := word.toList ≠ [] ∧ word.toList.all Char.isLower

instance (word : String) : Decidable (IsName word) := inferInstanceAs (Decidable (_ ∧ _))

def readName (cs : List Char) : Option (String × List Char) :=
  if cs.takeWhile Char.isLower = [] then none
  else some (String.ofList (cs.takeWhile Char.isLower), cs.dropWhile Char.isLower)

theorem IsName.read {word : String} (h : IsName word) {rest : List Char}
    (hrest : ∀ c ∈ rest.head?, c.isLower = false) :
    readName (word.toList ++ rest) = some (word, rest) := by
  have hchars := List.all_eq_true.mp h.2
  have hend : rest.takeWhile Char.isLower = [] ∧ rest.dropWhile Char.isLower = rest := by
    cases rest with
    | nil => exact ⟨rfl, rfl⟩
    | cons c rest =>
      have hc := hrest c rfl
      exact ⟨List.takeWhile_cons_of_neg (by simp [hc]), List.dropWhile_cons_of_neg (by simp [hc])⟩
  rw [readName, List.takeWhile_append_of_pos hchars, List.dropWhile_append_of_pos hchars, hend.1,
    hend.2, List.append_nil, if_neg h.1, String.ofList_toList]

end Names

section Readers

def readField (cs : List Char) : Option (Meaning × List Char) :=
  (readName cs).bind fun a => (Text.dropWord? ['.'] a.2).bind fun rest =>
    (readName rest).map fun f => (fun s => s.field a.1 f.1, f.2)

variable (reader : List Char → Option (Meaning × List Char))

def readArguments : ℕ → List Char → Option (List Meaning × List Char)
  | 0, _ => none
  | fuel + 1, cs =>
    match reader cs with
    | some (m, ')' :: rest) => some ([m], rest)
    | some (m, ',' :: ' ' :: rest) =>
      (readArguments fuel rest).map fun r => (m :: r.1, r.2)
    | _ => none

def readHole : Hole → List Char → Option (Part × List Char)
  | .expression, cs => (reader cs).map fun r => (.expression r.1, r.2)
  | .name, cs => (readName cs).map fun r => (.name r.1, r.2)

def readHoles : List (Hole × String) → List Char → Option (List Part × List Char)
  | [], cs => some ([], cs)
  | (hole, behind) :: holes, cs =>
    (readHole reader hole cs).bind fun r => (Text.dropWord? behind.toList r.2).bind fun rest =>
      (readHoles holes rest).map fun parts => (r.1 :: parts.1, parts.2)

def Form.read (f : Form) (cs : List Char) : Option (Meaning × List Char) :=
  (Text.dropWord? f.opening.toList cs).bind fun rest =>
    (readHoles reader f.holes rest).map fun r => (f.meaning r.1, r.2)

def WordEngine.readCompound (g : WordEngine) (fuel : ℕ) (cs : List Char) :
    Option (Meaning × List Char) :=
  match cs with
  | '(' :: _ => g.forms.findSome? fun f => f.read reader cs
  | _ =>
    match cs.dropWhile isNameChar with
    | '(' :: rest =>
      (readArguments reader fuel rest).map fun r =>
        (fun s => g.call (String.ofList (cs.takeWhile isNameChar)) (r.1.map fun m => m s), r.2)
    | _ => none

end Readers

namespace Profile

variable (p : Profile) (g : WordEngine)

/-- Reads a column, a literal, a number, or a field of a row. -/
def readAtom (cs : List Char) : Option (Meaning × List Char) :=
  ((p.identifierQuote.rule.read cs).map fun r =>
      (fun s => .ofOption (s.row (String.ofList r.1)), r.2)).or <|
    ((p.literalEscape.rule.read cs).map fun r => (fun _ => .text (String.ofList r.1), r.2)).or <|
      ((readNumber cs).map fun r => (fun _ => r.1, r.2)).or (readField cs)

/-- Reads the expression at the start of a text: its meaning, and what is left behind it. -/
def readExpression : ℕ → List Char → Option (Meaning × List Char)
  | 0, _ => none
  | fuel + 1, cs =>
    (p.readAtom cs).or (g.readCompound (readExpression fuel) fuel cs)

/-- An expression has a meaning, wherever it stands. -/
def Means (e : String) (m : Meaning) : Prop :=
  ∀ fuel rest, e.toList.length < fuel → (∀ c ∈ rest.head?, c ∈ partEnds) →
    p.readExpression g fuel (e.toList ++ rest) = some (m, rest)

/-- What stands in the holes of a form, with what is behind them. -/
inductive Fits : List (Hole × String) → String → List Part → Prop
  | nil : Fits [] "" []
  | expression {e behind text : String} {m : Meaning} {holes : List (Hole × String)}
      {parts : List Part} : p.Means g e m → Fits holes text parts →
      Fits ((.expression, behind) :: holes) (e ++ (behind ++ text)) (.expression m :: parts)
  | name {word behind text : String} {holes : List (Hole × String)} {parts : List Part} :
      IsName word → Fits holes text parts →
      Fits ((.name, behind) :: holes) (word ++ (behind ++ text)) (.name word :: parts)

variable {p g}

theorem Means.unique {e : String} {m m' : Meaning} (h : p.Means g e m) (h' : p.Means g e m') :
    m = m' := by
  have hmeaning := (h _ [] (Nat.lt_succ_self _) nofun).symm.trans
    (h' _ [] (Nat.lt_succ_self _) nofun)
  exact congrArg Prod.fst (Option.some.inj hmeaning)

theorem means_of_succ {e : String} {m : Meaning}
    (h : ∀ fuel rest, e.toList.length ≤ fuel → (∀ c ∈ rest.head?, c ∈ partEnds) →
      p.readExpression g (fuel + 1) (e.toList ++ rest) = some (m, rest)) : p.Means g e m := by
  intro fuel rest hfuel hrest
  obtain ⟨fuel, rfl⟩ := Nat.exists_eq_add_one_of_ne_zero (Nat.ne_zero_of_lt hfuel)
  exact h fuel rest (Nat.lt_succ_iff.mp hfuel) hrest

section Atoms

theorem means_of_atom {e : String} {m : Meaning}
    (h : ∀ rest, (∀ c ∈ rest.head?, c ∈ partEnds) →
      p.readAtom (e.toList ++ rest) = some (m, rest)) : p.Means g e m := by
  refine means_of_succ fun fuel rest _ hrest => ?_
  rw [readExpression, h rest hrest, Option.some_or]

theorem means_column (name : String) :
    p.Means g (p.quoteIdentifier name) fun s => .ofOption (s.row name) := by
  refine means_of_atom fun rest hrest => ?_
  have hclosing : rest.head? ≠ some p.identifierQuote.closing := by
    intro hhead
    have hmem := hrest _ hhead
    revert hmem
    cases p.identifierQuote <;> decide
  rw [readAtom, p.read_quoteIdentifier name hclosing, Option.map_some, Option.some_or,
    String.ofList_toList]

theorem means_literal (value : String) : p.Means g (p.quoteLiteral value) fun _ => .text value := by
  refine means_of_atom fun rest hrest => ?_
  have hquote : rest.head? ≠ some '\'' := by
    intro hhead
    have hmem := hrest _ hhead
    revert hmem
    decide
  have hcolumn : p.identifierQuote.rule.read ((p.quoteLiteral value).toList ++ rest) = none := by
    rw [toList_quoteLiteral]
    exact if_neg quote_ne_opening
  rw [readAtom, hcolumn, p.read_quoteLiteral value fun _ => hquote, Option.map_none,
    Option.none_or, Option.map_some, Option.some_or, String.ofList_toList]

theorem readAtom_of_kind {k : Char → Bool} (hk : ['\'', '"', '\x60', '['].any k = false) {c : Char}
    (h : k c) (cs : List Char) : p.readAtom (c :: cs) =
      ((readNumber (c :: cs)).map fun r => (fun _ => r.1, r.2)).or (readField (c :: cs)) := by
  have hne : ∀ quote ∈ ['\'', '"', '\x60', '['], c ≠ quote := by
    rintro quote hquote rfl
    rw [List.any_eq_false] at hk
    exact hk c hquote h
  have hcolumn : p.identifierQuote.rule.read (c :: cs) = none := by
    refine if_neg (hne _ ?_)
    cases p.identifierQuote <;> decide
  have hliteral : p.literalEscape.rule.read (c :: cs) = none := by
    refine if_neg ?_
    rw [LiteralEscape.opening_rule]
    exact hne _ (by decide)
  rw [readAtom, hcolumn, hliteral]
  rfl

theorem readNumber_eq_none {c : Char} (hdigit : c.isDigit = false) (hsign : c ≠ '-')
    (cs : List Char) : readNumber (c :: cs) = none := by
  have hhead : (c :: cs).head? ≠ some '-' := fun h => hsign (Option.some.inj h)
  rw [readNumber_of_ne hhead, readDigits_eq_none hdigit, Option.map_none]

theorem not_mem_partEnds {k : Char → Bool} (hk : partEnds.any k = false) {rest : List Char}
    (hrest : ∀ c ∈ rest.head?, c ∈ partEnds) : ∀ c ∈ rest.head?, k c = false := by
  intro c hc
  rw [List.any_eq_false] at hk
  exact Bool.eq_false_iff.mpr (hk c (hrest c hc))

theorem means_number (n : ℕ) : p.Means g (toString n) fun _ => .number n := by
  refine means_of_atom fun rest hrest => ?_
  obtain ⟨c, cs, hcs⟩ := List.exists_cons_of_ne_nil (Nat.toDigits_ne_nil (n := n) (b := 10))
  have hc : c.isDigit :=
    Nat.isDigit_of_mem_toDigits (by decide) (by decide) (hcs ▸ List.mem_cons_self)
  have htext : (toString n).toList = c :: cs := by
    rw [Nat.toString_eq_ofList_toDigits, String.toList_ofList, hcs]
  have hsign : ((toString n).toList ++ rest).head? ≠ some '-' := by
    rw [htext]
    rintro ⟨⟩
    cases hc
  have hread : readNumber ((toString n).toList ++ rest) = some (.number n, rest) := by
    rw [readNumber_of_ne hsign, readDigits_toString n (not_mem_partEnds (by decide) hrest),
      Option.map_some]
  rw [htext, List.cons_append] at hread ⊢
  rw [readAtom_of_kind (k := Char.isDigit) (by decide) hc, hread, Option.map_some, Option.some_or]

theorem means_field {e table field : String} (he : e = table ++ "." ++ field)
    (htable : IsName table) (hfield : IsName field) :
    p.Means g e fun s => s.field table field := by
  subst he
  refine means_of_atom fun rest hrest => ?_
  have hread : readField ((table ++ "." ++ field).toList ++ rest) =
      some (fun s => s.field table field, rest) := by
    have htext : (table ++ "." ++ field).toList ++ rest =
        table.toList ++ '.' :: (field.toList ++ rest) := by
      simp
    have hpoint : ∀ c ∈ ('.' :: (field.toList ++ rest)).head?, c.isLower = false := by
      rintro _ ⟨⟩
      rfl
    have hdrop : Text.dropWord? ['.'] ('.' :: (field.toList ++ rest)) =
        some (field.toList ++ rest) := rfl
    rw [htext, readField, htable.read hpoint, Option.bind_some, hdrop, Option.bind_some,
      hfield.read (not_mem_partEnds (by decide) hrest), Option.map_some]
  obtain ⟨c, cs, hcs⟩ := List.exists_cons_of_ne_nil htable.1
  have hc : c.isLower := List.all_eq_true.mp htable.2 c (hcs ▸ List.mem_cons_self)
  have htext : (table ++ "." ++ field).toList ++ rest =
      c :: (cs ++ ('.' :: field.toList ++ rest)) := by
    simp [hcs]
  have hnumber : readNumber (c :: (cs ++ ('.' :: field.toList ++ rest))) = none := by
    refine readNumber_eq_none (isDigit_eq_false_of_isLower hc) ?_ _
    rintro rfl
    cases hc
  rw [htext] at hread ⊢
  rw [readAtom_of_kind (k := Char.isLower) (by decide) hc, hnumber, Option.map_none,
    Option.none_or, hread]

end Atoms

section Compounds

/-- Calls and forms are no atoms. -/
theorem readAtom_eq_none {c : Char} (h : c = '(' ∨ isNameChar c) (cs : List Char) :
    p.readAtom (c :: cs) = none := by
  have hlower : c.isLower = false := by
    obtain rfl | h := h
    · rfl
    · exact isLower_eq_false_of_isNameChar h
  have hdigit : c.isDigit = false := by
    obtain rfl | h := h
    · rfl
    · exact isDigit_eq_false_of_isNameChar h
  have hsign : c ≠ '-' := by
    rintro rfl
    revert h
    decide
  have hfield : readField (c :: cs) = none := by
    rw [readField, readName, List.takeWhile_cons_of_neg (by simp [hlower]), if_pos rfl,
      Option.bind_none]
  have hkind : (c = '(' || isNameChar c) := by simpa using h
  rw [readAtom_of_kind (k := fun c => c = '(' || isNameChar c) (by decide) hkind,
    readNumber_eq_none hdigit hsign, hfield]
  rfl

theorem readArguments_joined {args : List String} {ms : List Meaning}
    (h : List.Forall₂ (p.Means g) args ms) (hne : args ≠ []) {fuel n : ℕ}
    (hfuel : (String.intercalate ", " args).toList.length < fuel)
    (hn : (String.intercalate ", " args).toList.length < n) (rest : List Char) :
    readArguments (p.readExpression g fuel) n
      ((String.intercalate ", " args).toList ++ ')' :: rest) = some (ms, rest) := by
  induction h generalizing n with
  | nil => exact absurd rfl hne
  | @cons arg m args ms harg hargs ih =>
    obtain ⟨n, rfl⟩ := Nat.exists_eq_add_one_of_ne_zero (Nat.ne_zero_of_lt hn)
    cases args with
    | nil =>
      cases hargs
      rw [String.intercalate_singleton] at hfuel ⊢
      rw [readArguments, harg fuel _ hfuel (by simp [partEnds])]
      rfl
    | cons next args =>
      have hjoin : (String.intercalate ", " (arg :: next :: args)).toList =
          arg.toList ++ ',' :: ' ' :: (String.intercalate ", " (next :: args)).toList := by
        rw [String.intercalate_cons_of_ne_nil (List.cons_ne_nil _ _), String.toList_append,
          String.toList_append, List.append_assoc]
        rfl
      rw [hjoin, List.length_append, List.length_cons, List.length_cons] at hfuel hn
      have hmore := ih (List.cons_ne_nil _ _) (by omega) (n := n) (by omega)
      rw [hjoin, List.append_assoc, List.cons_append, List.cons_append, readArguments,
        harg fuel _ (by omega) (by simp [partEnds])]
      exact congrArg (Option.map fun r : List Meaning × List Char => (m :: r.1, r.2)) hmore

theorem means_call {name : String} (hname : IsFunctionName name) {args : List String}
    {ms : List Meaning} (h : List.Forall₂ (p.Means g) args ms) (hne : args ≠ []) :
    p.Means g (callText name args) fun s => g.call name (ms.map fun m => m s) := by
  refine means_of_succ fun fuel rest hfuel _ => ?_
  obtain ⟨c, cs, hcs⟩ := List.exists_cons_of_ne_nil hname.1
  have hc : isNameChar c := List.all_eq_true.mp hname.2 c (hcs ▸ List.mem_cons_self)
  have htext : (callText name args).toList ++ rest =
      name.toList ++ '(' :: ((String.intercalate ", " args).toList ++ ')' :: rest) := by
    rw [toList_callText]
    simp
  have hlength : (String.intercalate ", " args).toList.length < fuel := by
    rw [toList_callText, hcs] at hfuel
    simp only [List.length_append, List.length_cons, List.length_nil] at hfuel
    omega
  have hopen : c ≠ '(' := by
    rintro rfl
    cases hc
  obtain ⟨htake, hdrop⟩ := hname.read ((String.intercalate ", " args).toList ++ ')' :: rest)
  have hcompound : g.readCompound (p.readExpression g fuel) fuel
      (name.toList ++ '(' :: ((String.intercalate ", " args).toList ++ ')' :: rest)) =
      some (fun s => g.call name (ms.map fun m => m s), rest) := by
    unfold WordEngine.readCompound
    split
    · next heq =>
      rw [hcs] at heq
      exact absurd (List.cons.inj heq).1 hopen
    · rw [hdrop, htake, String.ofList_toList]
      exact congrArg (Option.map fun r : List Meaning × List Char =>
        ((fun s => g.call name (r.1.map fun m => m s) : Meaning), r.2))
          (readArguments_joined h hne hlength hlength rest)
  rw [htext, readExpression, hcompound, hcs, List.cons_append, readAtom_eq_none (.inr hc),
    Option.none_or]

theorem readHoles_of_fits {holes : List (Hole × String)} {text : String} {parts : List Part}
    (h : p.Fits g holes text parts)
    (hends : ∀ hole ∈ holes, hole.2.toList.head?.any partEnds.contains) {fuel : ℕ}
    (hfuel : text.toList.length < fuel) (rest : List Char) :
    readHoles (p.readExpression g fuel) holes (text.toList ++ rest) = some (parts, rest) := by
  have hbehind {behind : String} (hend : behind.toList.head?.any partEnds.contains)
      (cs : List Char) : (∀ c ∈ (behind.toList ++ cs).head?, c ∈ partEnds) ∧
        Text.dropWord? behind.toList (behind.toList ++ cs) = some cs := by
    -- What is in a hole ends here, since what is behind it cannot be a part of it.
    refine ⟨fun c hc => ?_, Text.dropWord?_eq_some_iff.mpr rfl⟩
    cases hhead : behind.toList.head? with
    | none =>
      rw [hhead] at hend
      cases hend
    | some x =>
      rw [hhead] at hend
      rw [List.head?_append, hhead, Option.some_or] at hc
      cases hc
      exact List.contains_iff_mem.mp hend
  induction h with
  | nil => rfl
  | @expression e behind text m holes parts he h ih =>
    obtain ⟨hend, hrest⟩ := List.forall_mem_cons.mp hends
    simp only [String.toList_append, List.length_append, List.append_assoc] at hfuel ⊢
    obtain ⟨hstop, hdrop⟩ := hbehind hend (text.toList ++ rest)
    rw [readHoles, readHole, he fuel _ (by omega) hstop, Option.map_some, Option.bind_some]
    dsimp only
    rw [hdrop, Option.bind_some, ih hrest (by omega), Option.map_some]
  | @name word behind text holes parts hword h ih =>
    obtain ⟨hend, hrest⟩ := List.forall_mem_cons.mp hends
    simp only [String.toList_append, List.length_append, List.append_assoc] at hfuel ⊢
    obtain ⟨hstop, hdrop⟩ := hbehind hend (text.toList ++ rest)
    rw [readHoles, readHole, hword.read (not_mem_partEnds (by decide) hstop), Option.map_some,
      Option.bind_some]
    dsimp only
    rw [hdrop, Option.bind_some, ih hrest (by omega), Option.map_some]

theorem means_form {f : Form} {before after : List Form} (hforms : g.forms = before ++ f :: after)
    {text : String} {parts : List Part} (h : p.Fits g f.holes text parts)
    (hbefore : ∀ f' ∈ before, ∀ rest,
      Text.dropWord? f'.opening.toList ((f.opening ++ text).toList ++ rest) = none) :
    p.Means g (f.opening ++ text) (f.meaning parts) := by
  refine means_of_succ fun fuel rest hfuel _ => ?_
  obtain ⟨cs, hopening⟩ := List.head?_eq_some_iff.mp f.opening_head
  have htext : (f.opening ++ text).toList ++ rest = f.opening.toList ++ (text.toList ++ rest) := by
    simp
  have hlength : text.toList.length < fuel := by
    rw [String.toList_append, List.length_append, hopening, List.length_cons] at hfuel
    omega
  have hread : f.read (p.readExpression g fuel) ((f.opening ++ text).toList ++ rest) =
      some (f.meaning parts, rest) := by
    rw [htext, Form.read, Text.dropWord?_eq_some_iff.mpr rfl, Option.bind_some,
      readHoles_of_fits h f.holes_end hlength, Option.map_some]
  have hnone : before.findSome? (fun f' => f'.read (p.readExpression g fuel)
      ((f.opening ++ text).toList ++ rest)) = none := by
    rw [List.findSome?_eq_none_iff]
    intro f' hf'
    rw [Form.read, hbefore f' hf' rest, Option.bind_none]
  have hcompound : g.readCompound (p.readExpression g fuel) fuel
      ((f.opening ++ text).toList ++ rest) = some (f.meaning parts, rest) := by
    unfold WordEngine.readCompound
    split
    · rw [hforms, List.findSome?_append, hnone, Option.none_or, List.findSome?_cons, hread]
    · next hne => exact absurd (htext.trans (by rw [hopening, List.cons_append])) (hne _)
  rw [readExpression, hcompound, htext, hopening, List.cons_append, readAtom_eq_none (.inl rfl),
    Option.none_or]

end Compounds

end Profile

end CleanSql
