import CleanSql.Data
import CleanSql.Proofs.Json.Meaning

/-!
# What is printed is read back

The text of a tree of data says what the tree does (`meaning_toJson`). Texts are read back
character by character, numbers by their digits, and lists and records from what their parts are
read back as.
-/
namespace CleanSql.Json

section Quoted

theorem readUnicode_of_readHex {cs rest : List Char} {place n : Nat}
    (h : readHex cs place = .ok (n, rest)) (hn : n < 0xD800) :
    readUnicode cs place = .ok (Char.ofNat n, rest, place + 4) := by
  have hlow : isLowSurrogate n = false := by simp [isLowSurrogate]; omega
  have hhigh : isHighSurrogate n = false := by simp [isHighSurrogate]; omega
  rw [readUnicode, h]
  change (if isLowSurrogate n then _ else if isHighSurrogate n then _ else _) = _
  rw [hlow, hhigh]
  rfl

theorem natOfDigits?_hexDigits : ∀ n < 0x20,
    Number.natOfDigits? 16 ['0', '0', hexDigit (n / 16), hexDigit (n % 16)] = some n := by
  decide

/-- What may be written for a character between quotes: the character unless it has to be escaped,
a short escape of it, or its code. -/
inductive Spells (c : Char) : List Char → Prop
  | plain : c ≠ '"' → c ≠ '\\' → ¬ c.toNat < 0x20 → Spells c [c]
  | short {x : Char} : simpleEscape? x = some c → Spells c ['\\', x]
  | code {digits : List Char} : digits.length = 4 →
      Number.natOfDigits? 16 digits = some c.toNat → c.toNat < 0xD800 →
      Spells c ('\\' :: 'u' :: digits)

theorem Spells.length_pos {c : Char} {cs : List Char} (h : Spells c cs) : 0 < cs.length := by
  cases h <;> exact Nat.succ_pos _

theorem spells_escape (c : Char) : Spells c (escape c) := by
  fun_cases escape c with
  | case1 | case2 | case3 | case4 | case5 | case6 | case7 =>
    subst_vars
    exact .short rfl
  | case8 _ _ _ _ _ _ _ hcontrol =>
    exact .code rfl (natOfDigits?_hexDigits _ hcontrol) (by omega)
  | case9 hquote hback _ _ _ _ _ hcontrol => exact .plain hquote hback hcontrol

theorem quoted_of_spells {c : Char} {cs : List Char} (h : Spells c cs) (fuel : Nat)
    (rest : List Char) (place : Nat) (done : List Char) :
    ∃ place', readQuoted (fuel + 1) (cs ++ rest) place done =
        readQuoted fuel rest place' (c :: done) ∧
      skipQuoted (fuel + 1) (cs ++ rest) place = skipQuoted fuel rest place' := by
  cases h with
  | plain hquote hback hcontrol =>
    refine ⟨place + c.utf8Size, ?_, skipQuoted_plain hquote hback hcontrol fuel rest place⟩
    rw [List.singleton_append, readQuoted.eq_def]
    simp [hback, hcontrol]
  | @short x hescape =>
    have hx : x ≠ 'u' := by
      rintro rfl
      cases hescape
    refine ⟨place + 2, ?_, skipQuoted_escape hescape fuel rest place⟩
    rw [List.cons_append, List.singleton_append, readQuoted.eq_def]
    simp [hescape]
  | @code digits hlength hdigits hcode =>
    obtain ⟨x₁, x₂, x₃, x₄, rfl⟩ := List.length_eq_four.mp hlength
    have hhex : readHex ([x₁, x₂, x₃, x₄] ++ rest) (place + 2) = .ok (c.toNat, rest) :=
      readHex_eq_ok_iff.mpr ⟨_, _, _, _, rfl, hdigits⟩
    refine ⟨place + 6, ?_, skipQuoted_unicode hhex fuel place⟩
    have hunicode := readUnicode_of_readHex hhex hcode
    rw [Char.ofNat_toNat] at hunicode
    rw [List.cons_append, List.cons_append, readQuoted, hunicode]
    rfl

variable {e : Char → List Char}

theorem quoted_flatMap (he : ∀ c, Spells c (e c)) (s : List Char) {fuel : Nat}
    (h : s.length < fuel) (rest : List Char) (place : Nat) (done : List Char) :
    readQuoted fuel (s.flatMap e ++ '"' :: rest) place done =
        .ok (String.ofList (done.reverse ++ s)) ∧
      ∃ stop, skipQuoted fuel (s.flatMap e ++ '"' :: rest) place = .ok ⟨rest, stop⟩ := by
  induction s generalizing fuel place done with
  | nil =>
    obtain ⟨fuel, rfl⟩ := Nat.exists_eq_add_one_of_ne_zero (Nat.ne_zero_of_lt h)
    rw [List.append_nil]
    exact ⟨rfl, _, rfl⟩
  | cons c s ih =>
    obtain ⟨fuel, rfl⟩ := Nat.exists_eq_add_one_of_ne_zero (Nat.ne_zero_of_lt h)
    obtain ⟨place', hread, hskip⟩ :=
      quoted_of_spells (he c) fuel (s.flatMap e ++ '"' :: rest) place done
    rw [List.flatMap_cons, List.append_assoc, hread, hskip]
    have hfuel : s.length < fuel := by simpa using h
    have hi := ih hfuel place' (c :: done)
    rwa [List.reverse_cons, List.append_assoc] at hi

theorem length_le_length_flatMap (he : ∀ c, Spells c (e c)) (s : List Char) :
    s.length ≤ (s.flatMap e).length := by
  induction s with
  | nil => exact Nat.zero_le _
  | cons c s ih =>
    have hone := (he c).length_pos
    rw [List.flatMap_cons, List.length_append, List.length_cons]
    omega

theorem parseQuoted_flatMap (he : ∀ c, Spells c (e c)) (s : List Char) (rest : List Char)
    (start : Nat) :
    ∃ q stop, parseQuoted (s.flatMap e ++ '"' :: rest) start = (q, some ⟨rest, stop⟩) ∧
      q.value = .text (String.ofList s) := by
  have hfuel : s.length < (s.flatMap e ++ '"' :: rest).length + 1 := by
    have hlength := length_le_length_flatMap he s
    rw [List.length_append]
    omega
  obtain ⟨hread, stop, hskip⟩ := quoted_flatMap he s hfuel rest (start + 1) []
  rw [parseQuoted, hskip, hread]
  exact ⟨_, stop, rfl, rfl⟩

end Quoted

section Numbers

/-- What may come behind a number, so that it is not read on. -/
def Stops (rest : List Char) : Prop := ∀ c ∈ rest.head?, ¬ c.isDigit ∧ c ≠ '.' ∧ c ≠ 'e' ∧ c ≠ 'E'

theorem numberParts_of_digits {digits rest : List Char} (h : ∀ c ∈ digits, c.isDigit)
    (hrest : Stops rest) : NumberParts.of (digits ++ rest) = ⟨digits, none, none, rest⟩ := by
  unfold NumberParts.of
  rw [List.takeWhile_append_of_pos h, List.dropWhile_append_of_pos h]
  cases rest with
  | nil => simp
  | cons c rest =>
    obtain ⟨hdigit, hpoint, he, hE⟩ := hrest c rfl
    simp [hdigit, hpoint, he, hE]

theorem digitValue?_of_isDigit {c : Char} (h : c.isDigit) :
    Number.digitValue? c = some (c.toNat - '0'.toNat) ∧ c.toNat - '0'.toNat < 10 := by
  simp only [Char.isDigit, Bool.and_eq_true, decide_eq_true_eq] at h
  have hle : '0' ≤ c ∧ c ≤ '9' := h
  refine ⟨by rw [Number.digitValue?, if_pos hle], ?_⟩
  have hnine : c.toNat ≤ '9'.toNat := h.2
  have hchars : '9'.toNat = 57 ∧ '0'.toNat = 48 := by decide
  omega

theorem natOfDigits?_of_isDigit {cs : List Char} (h : ∀ c ∈ cs, c.isDigit) (hne : cs ≠ []) :
    Number.natOfDigits? 10 cs = some (Nat.ofDigitChars 10 cs 0) := by
  have hfold (cs : List Char) (h : ∀ c ∈ cs, c.isDigit) (n : Nat) :
      cs.foldlM (fun n c => (Number.digitValue? c).bind fun d =>
        if d < 10 then some (n * 10 + d) else none) n = some (Nat.ofDigitChars 10 cs n) := by
    induction cs generalizing n with
    | nil => rfl
    | cons c cs ih =>
      obtain ⟨hc, hcs⟩ := List.forall_mem_cons.mp h
      obtain ⟨hvalue, hlt⟩ := digitValue?_of_isDigit hc
      rw [List.foldlM_cons, hvalue, Option.bind_some, if_pos hlt, Nat.ofDigitChars_cons,
        Nat.mul_comm 10 n]
      exact ih hcs _
  cases cs with
  | nil => exact absurd rfl hne
  | cons c cs => exact hfold _ h 0

theorem head?_toDigits_ne {n : Nat} (hn : n ≠ 0) : (Nat.toDigits 10 n).head? ≠ some '0' := by
  induction n using Nat.strongRecOn with
  | _ n ih =>
    by_cases hsmall : n < 10
    · rw [Nat.toDigits_of_lt_base hsmall]
      simp [hn]
    · have hlarge := ih (n / 10) (by omega) (by omega)
      rw [Nat.toDigits_of_base_le (by decide) (by omega),
        List.head?_append_of_ne_nil _ Nat.toDigits_ne_nil]
      exact hlarge

theorem parseNumber_toDigits {n : Nat} (h : n < UInt64.size) {rest : List Char} (hrest : Stops rest)
    (start : Nat) : ∃ node stop, parseNumber false (Nat.toDigits 10 n ++ rest) start =
      (node, some ⟨rest, stop⟩) ∧ node.value = .number (.natural (UInt64.ofNat n)) := by
  have hdigits : ∀ c ∈ Nat.toDigits 10 n, c.isDigit := fun c hc =>
    Nat.isDigit_of_mem_toDigits (by decide) (by decide) hc
  have hfault (place : Nat) (atEnd : Cause) :
      (NumberParts.mk (Nat.toDigits 10 n) none none rest).fault? place atEnd = none := by
    rw [NumberParts.fault?, Option.or_eq_none_iff]
    refine ⟨?_, by simp [NumberParts.tailFault?]⟩
    unfold NumberParts.wholeFault?
    by_cases hn : n = 0
    · rw [hn, Nat.toDigits_zero]
      rfl
    · have hhead := head?_toDigits_ne hn
      cases hds : Nat.toDigits 10 n with
      | nil => exact absurd hds Nat.toDigits_ne_nil
      | cons d ds =>
        rw [hds] at hhead
        have hd : d ≠ '0' := fun hd => hhead (congrArg some hd)
        simp [hd]
  have hvalue (place : Nat) :
      (NumberParts.mk (Nat.toDigits 10 n) none none rest).value false place =
        .ok (.natural (UInt64.ofNat n)) := by
    simp only [NumberParts.value, natOfDigits?_of_isDigit hdigits Nat.toDigits_ne_nil,
      Nat.ofDigitChars_ten_toDigits]
    simp [h]
  unfold parseNumber
  rw [numberParts_of_digits hdigits hrest]
  simp only [hfault, hvalue]
  exact ⟨_, _, rfl, rfl⟩

end Numbers

section Trees

/-- A text is read back as a value, wherever it stands and whatever stops it. -/
structure ReadBack (cs : List Char) (v : Value) : Prop where
  starts : ∃ c rest, cs = c :: rest ∧ Cursor.isBlank c = false ∧ c ≠ ']'
  parses (fuel : Nat) (rest : List Char) (place : Nat) (hfuel : 3 * cs.length ≤ fuel + 1)
    (hrest : Stops rest) : ∃ node stop, parseValue (fuel + 1) ⟨cs ++ rest, place⟩ =
      (node, some ⟨rest, stop⟩) ∧ node.value = v

theorem skipBlanks_cons {c : Char} (h : Cursor.isBlank c = false) (cs : List Char) (place : Nat) :
    Cursor.skipBlanks ⟨c :: cs, place⟩ = ⟨c :: cs, place⟩ := by
  simp [Cursor.skipBlanks, Cursor.dropWhile, h]

theorem stops_cons {c : Char} (h : ¬ c.isDigit ∧ c ≠ '.' ∧ c ≠ 'e' ∧ c ≠ 'E') (rest : List Char) :
    Stops (c :: rest) := by
  rintro _ ⟨⟩
  exact h

namespace ReadBack

theorem null : ReadBack "null".toList .null where
  starts := ⟨_, _, rfl, by decide, by decide⟩
  parses _ _ _ _ _ := ⟨_, _, rfl, rfl⟩

theorem bool (b : Bool) : ReadBack (if b then "true" else "false").toList (.bool b) where
  starts := by cases b <;> exact ⟨_, _, rfl, by decide, by decide⟩
  parses _ _ _ _ _ := by cases b <;> exact ⟨_, _, rfl, rfl⟩

/-- A text is read back however its characters are spelled. -/
theorem quoted {e : Char → List Char} (he : ∀ c, Spells c (e c)) (s : List Char) :
    ReadBack ('"' :: s.flatMap e ++ ['"']) (.text (String.ofList s)) where
  starts := ⟨_, _, rfl, by decide, by decide⟩
  parses fuel rest place _ _ := by
    obtain ⟨q, stop, hparse, hvalue⟩ := parseQuoted_flatMap he s rest place
    have hstep (cs : List Char) : parseValue (fuel + 1) ⟨'"' :: cs, place⟩ =
        (.text (parseQuoted cs place).1, (parseQuoted cs place).2) := rfl
    refine ⟨.text q, stop, ?_, hvalue⟩
    rw [List.append_assoc, List.singleton_append, List.cons_append, hstep, hparse]

theorem quote (s : String) : ReadBack (Json.quote s).toList (.text s) := by
  have hread := quoted spells_escape s.toList
  rwa [String.ofList_toList, ← String.toList_ofList (l := '"' :: s.toList.flatMap escape ++ ['"'])]
    at hread

theorem nat {n : Nat} (h : n < UInt64.size) :
    ReadBack (toString n).toList (.number (.natural (UInt64.ofNat n))) := by
  rw [Nat.toString_eq_ofList_toDigits, String.toList_ofList]
  obtain ⟨d, ds, hds⟩ := List.exists_cons_of_ne_nil (Nat.toDigits_ne_nil (n := n) (b := 10))
  have hd : d.isDigit :=
    Nat.isDigit_of_mem_toDigits (by decide) (by decide) (hds ▸ List.mem_cons_self)
  have hne {c : Char} (hc : c.isDigit = false) : d ≠ c := by
    rintro rfl
    cases hc.symm.trans hd
  have hblank : Cursor.isBlank d = false := by
    simp [Cursor.isBlank, hne]
  refine ⟨⟨d, ds, hds, hblank, hne (by decide)⟩, fun fuel rest place _ hrest => ?_⟩
  · obtain ⟨node, stop, hparse, hvalue⟩ := parseNumber_toDigits h hrest place
    refine ⟨node, stop, ?_, hvalue⟩
    rw [hds, List.cons_append] at hparse ⊢
    unfold parseValue
    simp only [skipBlanks_cons hblank]
    split <;> simp_all

end ReadBack

theorem ReadBack.meaning_eq {text : String} {v : Value} (h : ReadBack text.toList v) :
    meaning text = v := by
  obtain ⟨node, stop, hparse, hvalue⟩ := h.parses (3 * text.toList.length + 2) [] 0 (by omega)
    (by rintro _ ⟨⟩)
  rw [List.append_nil] at hparse
  have hdocument : Document.parse text = ⟨node, none⟩ := by
    simp only [Document.parse, hparse]
    rfl
  rw [meaning, hdocument, ← hvalue]

section Lists

theorem starts_joined {t : List Char} {v : Value} (h : ReadBack t v) (ts : List (List Char)) :
    ∃ c rest, [','].intercalate (t :: ts) = c :: rest ∧ Cursor.isBlank c = false ∧ c ≠ ']' := by
  obtain ⟨c, rest, rfl, hc⟩ := h.starts
  cases ts with
  | nil => exact ⟨c, rest, List.intercalate_singleton, hc⟩
  | cons t' ts =>
    rw [List.intercalate_cons_cons]
    exact ⟨c, _, rfl, hc⟩

theorem parseItems_first {c : Char} (hblank : Cursor.isBlank c = false) (hc : c ≠ ']') (fuel : Nat)
    (rest : List Char) (place : Nat) :
    parseItems (fuel + 1) true ⟨c :: rest, place⟩ = parseItem fuel ⟨c :: rest, place⟩ := by
  unfold parseItems
  simp [hc, skipBlanks_cons hblank]

theorem parseItems_comma {c : Char} (hblank : Cursor.isBlank c = false) (hc : c ≠ ']') (fuel : Nat)
    (rest : List Char) (place : Nat) :
    parseItems (fuel + 1) false ⟨',' :: c :: rest, place⟩ =
      parseItem fuel ⟨c :: rest, place + 1⟩ := by
  unfold parseItems
  have hcomma := skipBlanks_cons (c := ',') (by decide) (c :: rest) place
  simp [hc, hcomma, skipBlanks_cons hblank]

theorem parseItem_joined {t : List Char} {v : Value} (h : ReadBack t v) {ts : List (List Char)}
    {vs : List Value} (hs : List.Forall₂ ReadBack ts vs) (fuel : Nat) (rest : List Char)
    (place : Nat) (hfuel : 3 * ([','].intercalate (t :: ts)).length + 3 ≤ fuel) :
    ∃ items stop, parseItem fuel ⟨[','].intercalate (t :: ts) ++ ']' :: rest, place⟩ =
      (items, .closed stop, some ⟨rest, stop⟩) ∧ Node.valueItems items = v :: vs := by
  induction hs generalizing t v fuel place with
  | nil =>
    obtain ⟨fuel, rfl⟩ := Nat.exists_eq_add_of_le' (m := 2) (n := fuel) (by omega)
    rw [List.intercalate_singleton] at hfuel ⊢
    obtain ⟨node, stop, hparse, hvalue⟩ := h.parses fuel (']' :: rest) place (by omega)
      (stops_cons (by decide) rest)
    rw [parseItem, hparse]
    refine ⟨[node], stop + 1, rfl, ?_⟩
    rw [Node.valueItems, hvalue, Node.valueItems]
  | @cons t' v' ts vs h' hs ih =>
    obtain ⟨fuel, rfl⟩ := Nat.exists_eq_add_of_le' (m := 2) (n := fuel) (by omega)
    rw [List.intercalate_cons_cons, List.length_append, List.length_append, List.length_singleton]
      at hfuel
    rw [List.intercalate_cons_cons, List.append_assoc, List.append_assoc]
    obtain ⟨node, stop, hparse, hvalue⟩ := h.parses fuel
      ([','] ++ ([','].intercalate (t' :: ts) ++ ']' :: rest)) place (by omega)
      (stops_cons (by decide) _)
    obtain ⟨c, more, hmore, hblank, hc⟩ := starts_joined h' ts
    obtain ⟨items, stop', hitems, hvalues⟩ := ih h' fuel (stop + 1) (by omega)
    rw [parseItem, hparse]
    rw [hmore] at hitems
    dsimp only
    rw [hmore, List.singleton_append, List.cons_append, parseItems_comma hblank hc]
    rw [List.cons_append] at hitems
    rw [hitems]
    refine ⟨node :: items, stop', rfl, ?_⟩
    rw [Node.valueItems, hvalue, hvalues]

theorem ReadBack.list {ts : List (List Char)} {vs : List Value} (h : List.Forall₂ ReadBack ts vs) :
    ReadBack ('[' :: [','].intercalate ts ++ [']']) (.list vs) where
  starts := ⟨_, _, rfl, by decide, by decide⟩
  parses fuel rest place hfuel _ := by
    simp only [List.length_append, List.length_cons, List.length_nil] at hfuel
    obtain ⟨fuel, rfl⟩ := Nat.exists_eq_add_of_le' (m := 1) (n := fuel) (by omega)
    have hstep (cs : List Char) : parseValue (fuel + 1 + 1) ⟨'[' :: cs, place⟩ =
        (.list place (parseItems (fuel + 1) true ⟨cs, place + 1⟩).1
          (parseItems (fuel + 1) true ⟨cs, place + 1⟩).2.1,
          (parseItems (fuel + 1) true ⟨cs, place + 1⟩).2.2) := rfl
    rw [List.append_assoc, List.cons_append, hstep, List.singleton_append]
    cases h with
    | nil => exact ⟨_, _, rfl, rfl⟩
    | @cons t v ts vs ht hts =>
      obtain ⟨c, more, hmore, hblank, hc⟩ := starts_joined ht ts
      obtain ⟨items, stop, hitems, hvalues⟩ :=
        parseItem_joined ht hts fuel rest (place + 1) (by omega)
      rw [hmore, List.cons_append] at hitems ⊢
      rw [parseItems_first hblank hc, hitems]
      exact ⟨_, _, rfl, congrArg Value.list hvalues⟩

end Lists

section Members

def memberText (key : String) (cs : List Char) : List Char :=
  '"' :: key.toList.flatMap escape ++ '"' :: ':' :: cs

theorem parseMember_memberText {t : List Char} {v : Value} (h : ReadBack t v) (key : String)
    (fuel : Nat) (hfuel : 3 * t.length ≤ fuel + 1) {c : Char} (hc : Cursor.isBlank c = false)
    (hstops : ¬ c.isDigit ∧ c ≠ '.' ∧ c ≠ 'e' ∧ c ≠ 'E') (rest : List Char) (place : Nat) :
    ∃ q behind node next, parseMember (fuel + 2)
        ⟨key.toList.flatMap escape ++ '"' :: ':' :: (t ++ c :: rest), place⟩ =
        ((q, behind, node, next) :: (parseMembers (fuel + 1) false ⟨c :: rest, next⟩).1,
          (parseMembers (fuel + 1) false ⟨c :: rest, next⟩).2) ∧
      q.value = .text key ∧ node.value = v := by
  obtain ⟨q, stop, hquoted, hq⟩ :=
    parseQuoted_flatMap spells_escape key.toList (':' :: (t ++ c :: rest)) place
  rw [String.ofList_toList] at hq
  obtain ⟨node, next, hparse, hvalue⟩ := h.parses fuel (c :: rest) (stop + 1) hfuel
    (stops_cons hstops rest)
  refine ⟨q, stop, node, next, ?_, hq, hvalue⟩
  unfold parseMember
  dsimp only
  rw [hquoted]
  have hcolon := skipBlanks_cons (c := ':') (by decide) (t ++ c :: rest) stop
  simp only [hcolon, hparse, skipBlanks_cons hc]

def membersText (ms : List (String × List Char)) : List Char :=
  [','].intercalate (ms.map fun m => memberText m.1 m.2)

theorem membersText_singleton (m : String × List Char) :
    membersText [m] = memberText m.1 m.2 := List.intercalate_singleton

theorem membersText_cons_cons (m m' : String × List Char) (ms : List (String × List Char)) :
    membersText (m :: m' :: ms) = memberText m.1 m.2 ++ ',' :: membersText (m' :: ms) := by
  rw [membersText, List.map_cons, List.map_cons, List.intercalate_cons_cons, List.append_assoc]
  rfl

theorem membersText_starts (m : String × List Char) (ms : List (String × List Char)) :
    ∃ body, membersText (m :: ms) = '"' :: body := by
  cases ms with
  | nil =>
    rw [membersText_singleton]
    exact ⟨_, rfl⟩
  | cons m' ms =>
    rw [membersText_cons_cons]
    exact ⟨_, rfl⟩

def MemberReadBack (m : String × List Char) (r : String × Value) : Prop :=
  m.1 = r.1 ∧ ReadBack m.2 r.2

theorem parseMember_membersText {m : String × List Char} {r : String × Value}
    (h : MemberReadBack m r) {ms : List (String × List Char)} {rs : List (String × Value)}
    (hs : List.Forall₂ MemberReadBack ms rs) {body : List Char}
    (hbody : membersText (m :: ms) = '"' :: body) (fuel : Nat) (rest : List Char) (place : Nat)
    (hfuel : 3 * body.length + 3 ≤ fuel) :
    ∃ members stop, parseMember fuel ⟨body ++ '\x7d' :: rest, place⟩ =
        (members, .closed stop, some ⟨rest, stop⟩) ∧
      Node.valueMembers members = (r :: rs).map fun r => (.text r.1, r.2) := by
  induction hs generalizing m r body fuel place with
  | nil =>
    obtain ⟨key, t⟩ := m
    obtain ⟨_, v⟩ := r
    obtain ⟨rfl, ht⟩ := h
    replace ht : ReadBack t v := ht
    rw [membersText_singleton] at hbody
    obtain rfl : key.toList.flatMap escape ++ '"' :: ':' :: t = body := (List.cons.inj hbody).2
    simp only [List.length_append, List.length_cons] at hfuel
    obtain ⟨fuel, rfl⟩ := Nat.exists_eq_add_of_le' (m := 2) (n := fuel) (by omega)
    obtain ⟨q, behind, node, next, hparse, hq, hvalue⟩ := parseMember_memberText ht key fuel
      (by omega) (c := '\x7d') (by decide) (by decide) rest place
    rw [List.append_assoc, List.cons_append, List.cons_append, hparse]
    refine ⟨_, next + 1, rfl, ?_⟩
    rw [Node.valueMembers, hq, hvalue]
    rfl
  | @cons m' r' ms rs h' hs ih =>
    obtain ⟨key, t⟩ := m
    obtain ⟨_, v⟩ := r
    obtain ⟨rfl, ht⟩ := h
    replace ht : ReadBack t v := ht
    obtain ⟨body', hbody'⟩ := membersText_starts m' ms
    rw [membersText_cons_cons, hbody'] at hbody
    obtain rfl : key.toList.flatMap escape ++ '"' :: ':' :: t ++ ',' :: '"' :: body' = body :=
      (List.cons.inj hbody).2
    simp only [List.length_append, List.length_cons] at hfuel
    obtain ⟨fuel, rfl⟩ := Nat.exists_eq_add_of_le' (m := 2) (n := fuel) (by omega)
    obtain ⟨q, behind, node, next, hparse, hq, hvalue⟩ := parseMember_memberText ht key fuel
      (by omega) (c := ',') (by decide) (by decide) ('"' :: (body' ++ '\x7d' :: rest)) place
    obtain ⟨members, stop, hmembers, hvalues⟩ := ih h' hbody' fuel (next + 1) (by omega)
    have hcomma : parseMembers (fuel + 1) false ⟨',' :: '"' :: (body' ++ '\x7d' :: rest), next⟩ =
        parseMember fuel ⟨body' ++ '\x7d' :: rest, next + 1⟩ := rfl
    rw [hcomma, hmembers] at hparse
    have hshape :
        key.toList.flatMap escape ++ '"' :: ':' :: t ++ ',' :: '"' :: body' ++ '\x7d' :: rest =
          key.toList.flatMap escape ++
            '"' :: ':' :: (t ++ ',' :: '"' :: (body' ++ '\x7d' :: rest)) := by
      simp
    rw [hshape, hparse]
    refine ⟨_, stop, rfl, ?_⟩
    rw [Node.valueMembers, hq, hvalue, hvalues]
    rfl

theorem ReadBack.record {ms : List (String × List Char)} {rs : List (String × Value)}
    (h : List.Forall₂ MemberReadBack ms rs) :
    ReadBack ('\x7b' :: membersText ms ++ ['\x7d']) (.record rs) where
  starts := ⟨_, _, rfl, by decide, by decide⟩
  parses fuel rest place hfuel _ := by
    simp only [List.length_append, List.length_cons, List.length_nil] at hfuel
    obtain ⟨fuel, rfl⟩ := Nat.exists_eq_add_of_le' (m := 1) (n := fuel) (by omega)
    have hstep (cs : List Char) : parseValue (fuel + 1 + 1) ⟨'\x7b' :: cs, place⟩ =
        (.record place (parseMembers (fuel + 1) true ⟨cs, place + 1⟩).1
          (parseMembers (fuel + 1) true ⟨cs, place + 1⟩).2.1,
          (parseMembers (fuel + 1) true ⟨cs, place + 1⟩).2.2) := rfl
    rw [List.append_assoc, List.cons_append, hstep, List.singleton_append]
    cases h with
    | nil => exact ⟨_, _, rfl, rfl⟩
    | @cons m r ms rs hm hms =>
      obtain ⟨body, hbody⟩ := membersText_starts m ms
      rw [hbody] at hfuel ⊢
      obtain ⟨members, stop, hmembers, hvalues⟩ :=
        parseMember_membersText hm hms hbody fuel rest (place + 1)
          (by simp only [List.length_cons] at hfuel; omega)
      have hfirst : parseMembers (fuel + 1) true ⟨'"' :: body ++ '\x7d' :: rest, place + 1⟩ =
          parseMember fuel ⟨body ++ '\x7d' :: rest, place + 1⟩ := rfl
      rw [hfirst, hmembers]
      refine ⟨_, _, rfl, ?_⟩
      simp only [Node.value, Value.ofMembers, Value.mapM_keyed?_eq_some_iff.mpr hvalues]

end Members

namespace Value

mutual

def ofData : Data → Value
  | .null => null
  | .bool b => bool b
  | .nat n => number (.natural (UInt64.ofNat n))
  | .text s => text s
  | .list items => list (ofDataItems items)
  | .record members => record (ofDataMembers members)

def ofDataItems : List Data → List Value
  | [] => []
  | item :: rest => ofData item :: ofDataItems rest

def ofDataMembers : List (String × Data) → List (String × Value)
  | [] => []
  | (key, value) :: rest => (key, ofData value) :: ofDataMembers rest

end

end Value

end Trees

end CleanSql.Json

namespace CleanSql.Data

mutual

def Fits : Data → Prop
  | null | bool _ | text _ => True
  | nat n => n < UInt64.size
  | list items => FitsItems items
  | record members => FitsMembers members

def FitsItems : List Data → Prop
  | [] => True
  | item :: rest => item.Fits ∧ FitsItems rest

def FitsMembers : List (String × Data) → Prop
  | [] => True
  | (_, value) :: rest => value.Fits ∧ FitsMembers rest

end

open Json

mutual

theorem readBack_toJson : ∀ d : Data, d.Fits → ReadBack d.toJson.toList (.ofData d)
  | null, _ => .null
  | bool b, _ => .bool b
  | nat _, h => .nat h
  | text s, _ => .quote s
  | list items, h => by
    have hitems := readBack_toJsonItems items h
    rw [toJson, String.toList_append, String.toList_append, String.toList_intercalate]
    exact .list hitems
  | record members, h => by
    obtain ⟨ms, htexts, hmembers⟩ := readBack_toJsonMembers members h
    rw [toJson, String.toList_append, String.toList_append, String.toList_intercalate, htexts]
    exact .record hmembers

theorem readBack_toJsonItems : ∀ items : List Data, FitsItems items →
    List.Forall₂ ReadBack ((toJsonItems items).map String.toList) (Value.ofDataItems items)
  | [], _ => .nil
  | item :: rest, h => .cons (readBack_toJson item h.1) (readBack_toJsonItems rest h.2)

theorem readBack_toJsonMembers : ∀ members : List (String × Data), FitsMembers members →
    ∃ ms, (toJsonMembers members).map String.toList = ms.map (fun m => memberText m.1 m.2) ∧
      List.Forall₂ MemberReadBack ms (Value.ofDataMembers members)
  | [], _ => ⟨[], rfl, .nil⟩
  | (key, value) :: rest, h => by
    obtain ⟨ms, htexts, hmembers⟩ := readBack_toJsonMembers rest h.2
    refine ⟨(key, value.toJson.toList) :: ms, ?_,
      .cons ⟨rfl, readBack_toJson value h.1⟩ hmembers⟩
    rw [toJsonMembers, List.map_cons, List.map_cons, htexts]
    simp [memberText, quote]

end

/-- The text of a tree says what the tree does. -/
theorem meaning_toJson {d : Data} (h : d.Fits) : meaning d.toJson = .ofData d :=
  (readBack_toJson d h).meaning_eq

end CleanSql.Data
