import CleanSql.Proofs.Split.Evaluation

/-!
# The part that a split takes

A split is written so that its value is the part of the text at the index, and empty or null if
there is none, wherever the dialect has a function for this. The form with `SUBSTRING_INDEX` takes
what is behind the last delimiter in the first parts, without asking how many there are. That is the
part only if no delimiter begins inside of the one before it, and if there are too few parts it is
empty only if the text is empty or ends in a delimiter (`Profile.writeSplit_selects_iff`).
-/
namespace CleanSql

/-- A value is the part of a text at an index counted from zero, or empty or null if there is
none. -/
def SqlValue.Selects (v : SqlValue) (delimiter s : String) (index : ℕ) : Prop :=
  match (Text.split delimiter s)[index]? with
  | some part => v = .text part
  | none => v = .text "" ∨ v = .null

namespace Text

/-- When what is behind the last delimiter in the first parts is what is asked for: no delimiter
begins inside of the one before the part, or, if there is no part, nothing is behind the last
delimiter of the text. -/
def LastIsPart (delimiter s : String) (index : ℕ) : Prop :=
  match (split delimiter s)[index]? with
  | some part => index = 0 ∨ ¬ delimiter.toList <:+: delimiter.toList.tail ++ part.toList
  | none => s = "" ∨ delimiter.toList <:+ s.toList

variable {delimiter s : String} {index : ℕ}

theorem selects_getD :
    (SqlValue.text ((split delimiter s)[index]?.getD "")).Selects delimiter s index := by
  unfold SqlValue.Selects
  cases (split delimiter s)[index]? with
  | none => exact .inl rfl
  | some part => rfl

theorem selects_ofOption :
    (SqlValue.ofOption (split delimiter s)[index]?).Selects delimiter s index := by
  unfold SqlValue.Selects
  cases (split delimiter s)[index]? with
  | none => exact .inr rfl
  | some part => rfl

theorem selects_behindLast_iff (h : delimiter ≠ "") :
    (SqlValue.text (behindLast delimiter (beforeOccurrence delimiter (index + 1) s))).Selects
        delimiter s index ↔ LastIsPart delimiter s index := by
  obtain ⟨w, word, hword⟩ : ∃ w word, delimiter.toList = w :: word :=
    List.exists_cons_of_ne_nil (by simpa using h)
  have hsplit : split delimiter s = (parts w word s.toList).map String.ofList := by
    rw [split, hword]
  have hvalue (value : String) :
      behindLast delimiter (beforeOccurrence delimiter (index + 1) s) = value ↔
        afterLast (w :: word) (upTo (w :: word) (index + 1) s.toList) = value.toList := by
    rw [behindLast, beforeOccurrence, hword, String.toList_ofList, ← String.toList_inj,
      String.toList_ofList]
  unfold SqlValue.Selects LastIsPart
  rw [hsplit, List.getElem?_map, hword, List.tail_cons]
  cases hpart : (parts w word s.toList)[index]? with
  | none =>
    rw [Option.map_none]
    simp only [SqlValue.text.injEq, reduceCtorEq, or_false]
    rw [hvalue, String.toList_empty, afterLast_upTo_eq_nil_iff hpart, String.toList_eq_nil_iff]
  | some part =>
    rw [Option.map_some]
    simp only [SqlValue.text.injEq, String.toList_ofList]
    rw [hvalue, String.toList_ofList, afterLast_upTo_eq_part_iff hpart]

end Text

namespace Profile

variable {p : Profile} {g : SplitEngine} {row : Row} {delimiter e s : String} {index : UInt64}

theorem native?_one (h : index.toNat + 1 < UInt64.size) :
    IndexBase.one.native? index = some (index + 1) ∧
      toString (index + 1) = toString (index.toNat + 1) := by
  refine ⟨if_pos h, ?_⟩
  have hnat : (index + 1).toNat = index.toNat + 1 := by
    rw [UInt64.toNat_add]
    exact Nat.mod_eq_of_lt h
  exact congrArg toString hnat

theorem evaluates_splitCall {name n : String} {v : SqlValue} (hname : IsFunctionName name)
    (he : p.Evaluates g row e (.text s)) (hn : p.Evaluates g row n v) :
    p.Evaluates g row (callText name [e, p.quoteLiteral delimiter, n])
      (g.call name [.text s, .text delimiter, v]) :=
  evaluates_call hname (.cons he <| .cons (evaluates_literal delimiter) <| .cons hn .nil)
    (List.cons_ne_nil _ _)

theorem evaluates_part (hp : p.split = .part "SPLIT_PART") (h : delimiter ≠ "")
    (hindex : index.toNat + 1 < UInt64.size) (he : p.Evaluates g row e (.text s)) :
    ∃ sql, p.writeSplit delimiter index e = .exact sql ∧
      p.Evaluates g row sql (.text ((Text.split delimiter s)[index.toNat]?.getD "")) := by
  obtain ⟨hnative, htoString⟩ := native?_one hindex
  refine ⟨callText "SPLIT_PART" [e, p.quoteLiteral delimiter, toString (index.toNat + 1)], ?_, ?_⟩
  · simp only [writeSplit, hp, SplitForm.base?, Option.elim_some, hnative, htoString]
    simp only [callText, String.intercalate_cons_cons, String.intercalate_singleton,
      String.append_assoc]
  · rw [← g.splitPart h s index.toNat]
    exact evaluates_splitCall (by decide) he (evaluates_natural _)

theorem evaluates_safeArray (hp : p.split = .safeArray "SPLIT")
    (hclosing : p.identifierQuote.closing ≠ ']') (h : delimiter ≠ "")
    (he : p.Evaluates g row e (.text s)) :
    ∃ sql, p.writeSplit delimiter index e = .exact sql ∧
      p.Evaluates g row sql (.ofOption (Text.split delimiter s)[index.toNat]?) := by
  have hplace : p.Evaluates g row (callText "SAFE_OFFSET" [toString index.toNat])
      (.offset index.toNat) := by
    rw [← g.safeOffset]
    exact evaluates_call (by decide) (.cons (evaluates_natural _) .nil) (List.cons_ne_nil _ _)
  refine ⟨callText "SPLIT" [e, p.quoteLiteral delimiter] ++ "[" ++
    callText "SAFE_OFFSET" [toString index.toNat] ++ "]", ?_, ?_⟩
  · simp only [writeSplit, hp, SplitForm.base?, Option.elim_some, IndexBase.native?]
    have hopening : ")[SAFE_OFFSET(" = ")[" ++ "SAFE_OFFSET(" := rfl
    simp only [callText, String.intercalate_cons_cons, String.intercalate_singleton,
      String.append_assoc]
    rw [hopening, String.append_assoc]
    rfl
  · have hname : IsFunctionName "SPLIT" := by decide
    have hvalue := evaluates_element hname
      (.cons he <| .cons (evaluates_literal delimiter) .nil) (List.cons_ne_nil _ _) hplace hclosing
    rwa [g.split h s] at hvalue

theorem evaluates_substringIndex (hp : p.split = .substringIndex) (h : delimiter ≠ "")
    (hindex : index.toNat + 1 < UInt64.size) (he : p.Evaluates g row e (.text s)) :
    ∃ sql, p.writeSplit delimiter index e = .exact sql ∧
      p.Evaluates g row sql (.text (Text.behindLast delimiter
        (Text.beforeOccurrence delimiter (index.toNat + 1) s))) := by
  obtain ⟨hnative, htoString⟩ := native?_one hindex
  let first := callText "SUBSTRING_INDEX"
    [e, p.quoteLiteral delimiter, toString (index.toNat + 1)]
  have hfirst : p.Evaluates g row first
      (.text (Text.beforeOccurrence delimiter (index.toNat + 1) s)) := by
    rw [← g.beforeOccurrence h s index.toNat]
    exact evaluates_splitCall (by decide) he (evaluates_natural _)
  refine ⟨callText "SUBSTRING_INDEX" [first, p.quoteLiteral delimiter, "-" ++ toString 1], ?_, ?_⟩
  · simp only [writeSplit, hp, SplitForm.base?, Option.elim_some, hnative, htoString]
    have hopening : "SUBSTRING_INDEX(SUBSTRING_INDEX(" =
        "SUBSTRING_INDEX" ++ ("(" ++ ("SUBSTRING_INDEX" ++ "(")) := rfl
    have hseam : "), " = ")" ++ ", " := rfl
    have hlast : ", -1)" = ", " ++ ("-" ++ (toString 1 ++ ")")) := rfl
    simp only [callText, first, String.intercalate_cons_cons, String.intercalate_singleton]
    rw [hopening, hseam, hlast]
    simp only [String.append_assoc]
  · rw [← g.behindLast h]
    exact evaluates_splitCall (by decide) hfirst (evaluates_negative 1)

/-- In the dialects with such a function, a split is written exactly, and its value is the part at
the index, or empty or null if there is none. Where the last of the first parts is taken, this is so
exactly if that is the part. -/
theorem writeSplit_selects_iff {d : Dialect} (hd : d ∈ [.snowflake, .postgresql, .bigquery, .mysql])
    (g : SplitEngine) (row : Row) {delimiter e s : String} {index : UInt64} (h : delimiter ≠ "")
    (hindex : index.toNat + 1 < UInt64.size) (he : d.profile.Evaluates g row e (.text s)) :
    ∃ sql v, d.profile.writeSplit delimiter index e = .exact sql ∧
      d.profile.Evaluates g row sql v ∧
      (v.Selects delimiter s index.toNat ↔
        (d = .mysql → Text.LastIsPart delimiter s index.toNat)) := by
  simp only [List.mem_cons, List.not_mem_nil, or_false] at hd
  obtain rfl | rfl | rfl | rfl := hd
  case inl | inr.inl =>
    obtain ⟨sql, hsql, hvalue⟩ := evaluates_part rfl h hindex he
    exact ⟨sql, _, hsql, hvalue, iff_of_true Text.selects_getD nofun⟩
  case inr.inr.inl =>
    obtain ⟨sql, hsql, hvalue⟩ := evaluates_safeArray rfl (by decide) h he
    exact ⟨sql, _, hsql, hvalue, iff_of_true Text.selects_ofOption nofun⟩
  case inr.inr.inr =>
    obtain ⟨sql, hsql, hvalue⟩ := evaluates_substringIndex rfl h hindex he
    refine ⟨sql, _, hsql, hvalue, ?_⟩
    rw [Text.selects_behindLast_iff h]
    exact ⟨fun hlast _ => hlast, fun hlast => hlast rfl⟩

/-- A delimiter that begins inside of another: the parts are `a` and `-b`. -/
theorem writeSplit_selects_iff_overlapping :
    Dialect.mysql ∈ [Dialect.snowflake, .postgresql, .bigquery, .mysql] ∧ "--" ≠ "" ∧
    (1 : UInt64).toNat + 1 < UInt64.size ∧
    ∃ sql v, Dialect.mysql.profile.writeSplit "--" 1 (Dialect.mysql.profile.quoteIdentifier "c") =
        .exact sql ∧
      Dialect.mysql.profile.Evaluates .documented (fun _ => some "a---b") sql v ∧
      (v.Selects "--" "a---b" (1 : UInt64).toNat ↔
        (Dialect.mysql = .mysql → Text.LastIsPart "--" "a---b" (1 : UInt64).toNat)) :=
  ⟨by decide, by decide, by decide,
    writeSplit_selects_iff (by decide) .documented (fun _ => some "a---b") (by decide) (by decide)
      (evaluates_column "c")⟩

/-- The part behind the only one is asked for, and the only one is given. -/
theorem not_forall_writeSplit_selects :
    ¬ ∀ d ∈ [Dialect.snowflake, .postgresql, .bigquery, .mysql], ∀ (g : SplitEngine) (row : Row)
      (delimiter e s : String) (index : UInt64), delimiter ≠ "" →
        index.toNat + 1 < UInt64.size → d.profile.Evaluates g row e (.text s) →
        ∃ sql v, d.profile.writeSplit delimiter index e = .exact sql ∧
          d.profile.Evaluates g row sql v ∧ v.Selects delimiter s index.toNat := by
  intro hall
  have he : Dialect.mysql.profile.Evaluates .documented (fun _ => none)
      (Dialect.mysql.profile.quoteLiteral "a") (.text "a") := evaluates_literal "a"
  have hdelimiter : "," ≠ "" := by decide
  have hindex : (1 : UInt64).toNat + 1 < UInt64.size := by decide
  obtain ⟨sql, v, hsql, hvalue, hselects⟩ :=
    hall .mysql (by decide) .documented _ _ _ _ _ hdelimiter hindex he
  obtain ⟨sql', hsql', hvalue'⟩ := evaluates_substringIndex rfl hdelimiter hindex he
  obtain rfl : sql = sql' := Fragment.exact.inj (hsql.symm.trans hsql')
  rw [hvalue.unique hvalue', Text.selects_behindLast_iff hdelimiter] at hselects
  have hparts : Text.split "," "a" = ["a"] := by
    have honly : Text.parts ',' [] "a".toList = ["a".toList] := Text.parts_of_eq_none (by decide)
    exact congrArg (List.map String.ofList) honly
  rw [Text.LastIsPart, hparts] at hselects
  have hlast : "a" = "" ∨ ",".toList <:+ "a".toList := hselects
  revert hlast
  decide

end Profile

end CleanSql
