import CleanSql.Proofs.Json.Agreement
import CleanSql.Table.Document

/-!
# The meaning of a text

A text that can be read can be passed over, so that all that is parsed is sound and a table is
decoded from a text as from its meaning.
-/
namespace CleanSql

namespace Json

theorem readHex_eq_ok_iff {cs rest : List Char} {place n : Nat} :
    readHex cs place = .ok (n, rest) ↔
      ∃ a b c d, cs = a :: b :: c :: d :: rest ∧ Number.natOfDigits? 16 [a, b, c, d] = some n := by
  constructor
  · intro h
    unfold readHex at h
    dsimp only at h
    split at h
    · cases h
    split at h
    · split at h
      · rename_i hn
        cases h
        exact ⟨_, _, _, _, rfl, hn⟩
      · cases h
    · cases h
  · rintro ⟨a, b, c, d, rfl, hn⟩
    have hsize : ¬ byteSize ([a, b, c, d]) < 4 := by
      have ha := a.utf8Size_pos
      have hb := b.utf8Size_pos
      have hc := c.utf8Size_pos
      have hd := d.utf8Size_pos
      simp only [byteSize, List.foldl_cons, List.foldl_nil]
      omega
    simp only [readHex, List.take_succ_cons, List.take_zero, if_neg hsize, hn]
    rfl

theorem length_of_readHex {cs rest : List Char} {place n : Nat}
    (h : readHex cs place = .ok (n, rest)) : cs.length = rest.length + 4 := by
  obtain ⟨a, b, c, d, rfl, -⟩ := readHex_eq_ok_iff.mp h
  rfl

theorem skipQuoted_unicode {rest rest' : List Char} {n place : Nat}
    (h : readHex rest place = .ok (n, rest')) (fuel place' : Nat) :
    skipQuoted (fuel + 1) ('\\' :: 'u' :: rest) place' = skipQuoted fuel rest' (place' + 6) := by
  rw [skipQuoted, readHex_eq_ok_iff.mpr (readHex_eq_ok_iff.mp h)]
  rfl

theorem skipQuoted_escape {c e : Char} (h : simpleEscape? c = some e) (fuel : Nat)
    (rest : List Char) (place : Nat) :
    skipQuoted (fuel + 1) ('\\' :: c :: rest) place = skipQuoted fuel rest (place + 2) := by
  have hc : c ≠ 'u' := by
    rintro rfl
    cases h
  rw [skipQuoted.eq_def]
  simp [h]

theorem skipQuoted_plain {c : Char} (hquote : c ≠ '"') (hescape : c ≠ '\\') (h : ¬ c.toNat < 0x20)
    (fuel : Nat) (rest : List Char) (place : Nat) :
    skipQuoted (fuel + 1) (c :: rest) place = skipQuoted fuel rest (place + c.utf8Size) := by
  rw [skipQuoted.eq_def]
  simp [hescape, h]

/-- A character that is written as an escape is one escape or, in two halves, two of them. -/
theorem readUnicode_cases {cs rest : List Char} {place place' : Nat} {c : Char}
    (h : readUnicode cs place = .ok (c, rest, place')) :
    (∃ n, readHex cs place = .ok (n, rest)) ∨
    ∃ high low cs', readHex cs place = .ok (high, '\\' :: 'u' :: cs') ∧
      readHex cs' (place + 6) = .ok (low, rest) := by
  cases hhex : readHex cs place with
  | error f =>
    rw [readUnicode, hhex] at h
    cases h
  | ok read =>
    obtain ⟨n, behind⟩ := read
    have hsplit : (if isLowSurrogate n then throw ⟨.loneSurrogate, place + 4⟩
        else if isHighSurrogate n then readLowHalf n behind (place + 4)
        else pure (Char.ofNat n, behind, place + 4)) = Except.ok (c, rest, place') := by
      rw [readUnicode, hhex] at h
      exact h
    by_cases hlow : isLowSurrogate n
    · rw [if_pos hlow] at hsplit
      cases hsplit
    rw [if_neg hlow] at hsplit
    by_cases hhigh : isHighSurrogate n
    · rw [if_pos hhigh] at hsplit
      unfold readLowHalf at hsplit
      split at hsplit
      · cases hsplit
      · rename_i cs'
        cases hsecond : readHex cs' (place + 4 + 2) with
        | error f =>
          rw [hsecond] at hsplit
          cases hsplit
        | ok read =>
          obtain ⟨low, behind⟩ := read
          rw [hsecond] at hsplit
          change (if isLowSurrogate low then _ else _) = _ at hsplit
          split at hsplit
          · have hrest : behind = rest := (Prod.mk.inj (Prod.mk.inj (Except.ok.inj hsplit)).2).1
            exact .inr ⟨n, low, cs', rfl, hrest ▸ hsecond⟩
          · cases hsplit
      · cases hsplit
      · cases hsplit
      · cases hsplit
    · rw [if_neg hhigh] at hsplit
      cases hsplit
      exact .inl ⟨n, rfl⟩

/-- What is read up to a closing quote can be passed over. More steps are needed for that, since a
pair of halves is one character. -/
theorem exists_skipQuoted_of_readQuoted {fuel place : Nat} {cs done : List Char} {s : String}
    (h : readQuoted fuel cs place done = .ok s) (place' : Nat) :
    ∀ fuel', cs.length < fuel' → ∃ c, skipQuoted fuel' cs place' = .ok c := by
  induction fuel generalizing cs done place place' with
  | zero => cases h
  | succ fuel ih =>
    rintro (_ | fuel') hfuel
    · omega
    unfold readQuoted at h
    split at h
    · cases h
    · exact ⟨_, rfl⟩
    · cases h
    · rename_i rest
      cases hunicode : readUnicode rest (place + 2) with
      | error f =>
        rw [hunicode] at h
        cases h
      | ok read =>
        obtain ⟨c, behind, place''⟩ := read
        rw [hunicode] at h
        rcases readUnicode_cases hunicode with ⟨n, hhex⟩ | ⟨high, low, cs', hhex, hsecond⟩
        · rw [skipQuoted_unicode hhex]
          have hlength := length_of_readHex hhex
          exact ih h _ _ (by simp only [List.length_cons] at hfuel; omega)
        · rw [skipQuoted_unicode hhex]
          have hlength := length_of_readHex hhex
          have hlength' := length_of_readHex hsecond
          simp only [List.length_cons] at hfuel hlength
          obtain ⟨fuel'', rfl⟩ := Nat.exists_eq_add_one_of_ne_zero (n := fuel') (by omega)
          rw [skipQuoted_unicode hsecond]
          exact ih h _ _ (by omega)
    · rename_i c rest hunicode
      split at h
      · rename_i e he
        rw [skipQuoted_escape he]
        exact ih h _ _ (by simp only [List.length_cons] at hfuel; omega)
      · cases h
    · rename_i c rest hquote hlast hunicode hescape
      have hplain : c ≠ '\\' := by
        rintro rfl
        cases rest with
        | nil => exact hlast rfl rfl
        | cons c rest => exact hescape c rest rfl rfl
      split at h
      · cases h
      rename_i hcontrol
      rw [skipQuoted_plain hquote hplain hcontrol]
      exact ih h _ _ (by simp only [List.length_cons] at hfuel; omega)

theorem sound_parseQuoted (cs : List Char) (start : Nat) : (parseQuoted cs start).1.Sound := by
  unfold parseQuoted Quoted.Sound
  dsimp only
  intro s
  cases hskip : skipQuoted (cs.length + 1) cs (start + 1) with
  | ok c => exact fun _ => rfl
  | error f =>
    intro hread
    obtain ⟨c, hc⟩ := exists_skipQuoted_of_readQuoted hread (start + 1) _ (Nat.lt_succ_self _)
    cases hskip.symm.trans hc

/-- Whether a number is spelled well does not depend on what is said at the end of a text. -/
theorem NumberParts.fault?_eq_none_iff (n : NumberParts) (place : Nat) (atEnd atEnd' : Cause) :
    n.fault? place atEnd = none ↔ n.fault? place atEnd' = none := by
  have hwhole : n.wholeFault? place atEnd = none ↔ n.wholeFault? place atEnd' = none := by
    unfold wholeFault?
    split
    · split <;> simp
    · rfl
    · rfl
  have htail : n.tailFault? place atEnd = none ↔ n.tailFault? place atEnd' = none := by
    unfold tailFault?
    dsimp only
    split_ifs
    · split <;> simp
    · split <;> simp
    · rfl
  rw [fault?, fault?, Option.or_eq_none_iff, Option.or_eq_none_iff, hwhole, htail]

theorem sound_parseNumber (negative : Bool) (cs : List Char) (start : Nat) :
    (parseNumber negative cs start).1.Sound := by
  unfold parseNumber
  dsimp only
  split
  · rename_i f hf
    rw [Node.Sound]
    intro n hn
    split at hn
    · cases hn
    · rename_i hnone
      cases (((NumberParts.of cs).fault?_eq_none_iff _ _ _).mp hnone).symm.trans hf
  · exact fun _ _ => rfl

theorem sound_parseWord {name : String} {node : Nat → Node} (h : ∀ stop, (node stop).Sound)
    (cs : List Char) (start : Nat) : (parseWord name node cs start).1.Sound := by
  unfold parseWord
  split
  · exact h _
  · trivial

/-- All that is parsed with so many steps is sound. -/
structure ParsesSound (fuel : Nat) : Prop where
  value (c : Cursor) : (parseValue fuel c).1.Sound
  items (first : Bool) (c : Cursor) : Node.SoundItems (parseItems fuel first c).1
  item (c : Cursor) : Node.SoundItems (parseItem fuel c).1
  members (first : Bool) (c : Cursor) : Node.SoundMembers (parseMembers fuel first c).1
  member (c : Cursor) : Node.SoundMembers (parseMember fuel c).1

section Step

variable {fuel : Nat} (h : ParsesSound fuel)

include h

theorem ParsesSound.value_succ (c : Cursor) : (parseValue (fuel + 1) c).1.Sound := by
  unfold parseValue
  dsimp only
  split
  · trivial
  · exact sound_parseWord (by exact fun _ => trivial) _ _
  · exact sound_parseWord (by exact fun _ => trivial) _ _
  · exact sound_parseWord (by exact fun _ => trivial) _ _
  · exact sound_parseQuoted _ _
  · exact sound_parseNumber _ _ _
  · exact h.items _ _
  · exact h.members _ _
  · split
    · exact sound_parseNumber _ _ _
    · trivial

theorem ParsesSound.items_succ (first : Bool) (c : Cursor) :
    Node.SoundItems (parseItems (fuel + 1) first c).1 := by
  unfold parseItems
  dsimp only
  split
  · trivial
  · trivial
  · split
    · trivial
    · trivial
    · exact h.item _
  · exact h.item _
  · trivial

theorem ParsesSound.item_succ (c : Cursor) : Node.SoundItems (parseItem (fuel + 1) c).1 := by
  unfold parseItem
  have hvalue := h.value c
  split
  · rename_i item hitem
    rw [hitem] at hvalue
    exact ⟨hvalue, trivial⟩
  · rename_i item next hitem
    rw [hitem] at hvalue
    exact ⟨hvalue, h.items false next⟩

theorem ParsesSound.members_succ (first : Bool) (c : Cursor) :
    Node.SoundMembers (parseMembers (fuel + 1) first c).1 := by
  unfold parseMembers
  dsimp only
  split
  · trivial
  · trivial
  · split
    · trivial
    · trivial
    · exact h.member _
    · trivial
  · exact h.member _
  · trivial
  · trivial

theorem ParsesSound.member_succ (c : Cursor) : Node.SoundMembers (parseMember (fuel + 1) c).1 := by
  unfold parseMember
  have hkey := sound_parseQuoted c.rest c.place
  split
  · rename_i key hquoted
    rw [hquoted] at hkey
    exact ⟨⟨hkey, trivial⟩, trivial⟩
  · rename_i key behind hquoted
    rw [hquoted] at hkey
    dsimp only
    split
    · rename_i rest _
      have hvalue := h.value ⟨rest, behind.skipBlanks.place + 1⟩
      split
      · rename_i value hparsed
        rw [hparsed] at hvalue
        exact ⟨⟨hkey, hvalue⟩, trivial⟩
      · rename_i value next hparsed
        rw [hparsed] at hvalue
        exact ⟨⟨hkey, hvalue⟩, h.members false _⟩
    · exact ⟨⟨hkey, trivial⟩, trivial⟩
    · exact ⟨⟨hkey, trivial⟩, trivial⟩

end Step

theorem parsesSound (fuel : Nat) : ParsesSound fuel := by
  induction fuel with
  | zero =>
    exact ⟨fun _ => trivial, fun _ _ => trivial, fun _ => trivial, fun _ _ => trivial,
      fun _ => trivial⟩
  | succ fuel ih =>
    exact ⟨ih.value_succ, ih.items_succ, ih.item_succ, ih.members_succ, ih.member_succ⟩

def meaning (text : String) : Value :=
  match Document.parse text with
  | ⟨root, none⟩ => root.value
  | ⟨_, some _⟩ => .broken

theorem sound_parse (text : String) : (Document.parse text).root.Sound := by
  unfold Document.parse
  have hvalue := (parsesSound (3 * text.toList.length + 3)).value ⟨text.toList, 0⟩
  dsimp only
  split
  · rename_i root hroot
    rw [hroot] at hvalue
    exact hvalue
  · rename_i root c hroot
    rw [hroot] at hvalue
    exact hvalue

/-- A table is decoded from a text as from its meaning. -/
theorem toOption_readTable (text : String) :
    (readTable text).toOption = (TableSpec.decode (meaning text)).toOption := by
  have hsound := sound_parse text
  have hread : (readTable text).toOption = (Document.parse text).table.toOption := by
    rw [readTable]
    cases (Document.parse text).table <;> rfl
  rw [hread, meaning]
  generalize Document.parse text = document at hsound ⊢
  obtain ⟨root, trailing⟩ := document
  rw [Document.table, toOption_bind, TableSpec.decode_agree Node.agree_value ⟨hsound, rfl⟩]
  cases trailing with
  | none => exact Option.bind_fun_some _
  | some f => exact Option.bind_fun_none _

end Json

/-- A table is read from a text if it is decoded from its meaning. -/
theorem TableSpec.ofText_json_eq_ok_iff {source text : String} {t : TableSpec} :
    ofText .json source text = .ok t ↔ decode (Json.meaning text) = .ok t := by
  have h := Json.toOption_readTable text
  have hread : (ofText .json source text).toOption = (Json.readTable text).toOption := by
    rw [ofText, TableFormat.read]
    cases Json.readTable text <;> rfl
  rw [← toOption_eq_some_iff, ← toOption_eq_some_iff, hread, h]

end CleanSql
