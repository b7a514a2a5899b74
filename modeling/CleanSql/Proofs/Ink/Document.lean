import CleanSql.Proofs.Ink.Control

/-!
# Documents for other programs

The text of a tree of data never holds an escape character, whatever its texts hold: in JSON and in
YAML one is spelled out between quotes (`Data.isPlain_toJsonLines`, `Data.isPlain_toYaml`).
-/
namespace CleanSql

open Ink

namespace Json

theorem hexDigit_ne_escape : ∀ n < 16, hexDigit n ≠ '\x1b' := by decide

theorem escape_ne_escape (c : Char) : ∀ x ∈ escape c, x ≠ '\x1b' := by
  fun_cases escape c with
  | case8 _ _ _ _ _ _ _ hcontrol =>
    have hhigh := hexDigit_ne_escape (c.toNat / 16) (by omega)
    have hlow := hexDigit_ne_escape (c.toNat % 16) (by omega)
    simp [hhigh, hlow]
  | case9 _ _ _ _ _ _ _ hcontrol =>
    rw [List.forall_mem_singleton]
    rintro rfl
    exact hcontrol (by decide)
  | _ => simp

theorem isPlain_quote (s : String) : IsPlain (quote s) := by
  refine isPlain_ofList ?_
  simp only [List.mem_append, List.mem_cons, List.mem_flatMap, List.not_mem_nil, or_false, not_or]
  refine ⟨⟨by decide, ?_⟩, by decide⟩
  rintro ⟨c, -, hc⟩
  exact escape_ne_escape c _ hc rfl

end Json

namespace Data

theorem isPlain_null : IsPlain "null" := by decide

theorem isPlain_bool (b : Bool) : IsPlain (if b then "true" else "false") := by
  cases b <;> decide

theorem isPlain_bracketLines {indent opening closing : String} (hindent : IsPlain indent)
    (hopening : IsPlain opening) (hclosing : IsPlain closing) {lines : List String}
    (h : ∀ l ∈ lines, IsPlain l) : IsPlain (bracketLines indent opening closing lines) := by
  unfold bracketLines
  split_ifs
  · exact hopening.append hclosing
  · have hindented : ∀ l ∈ lines.map fun l => indent ++ "  " ++ l, IsPlain l := by
      rw [List.forall_mem_map]
      exact fun l hl => (hindent.append (by decide)).append (h l hl)
    have hcomma : IsPlain ",\n" := by decide
    exact ((((hopening.append (by decide)).append (isPlain_intercalate hcomma hindented)).append
      (by decide)).append hindent).append hclosing

mutual

theorem isPlain_toJsonLines {indent : String} (h : IsPlain indent) :
    ∀ d : Data, IsPlain (d.toJsonLines indent)
  | .null => isPlain_null
  | .bool b => isPlain_bool b
  | .nat n => isPlain_toString n
  | .text s => Json.isPlain_quote s
  | .list items =>
    isPlain_bracketLines h (by decide) (by decide)
      (isPlain_toJsonLinesItems (h.append (by decide)) items)
  | .record members =>
    isPlain_bracketLines h (by decide) (by decide)
      (isPlain_toJsonLinesMembers (h.append (by decide)) members)

theorem isPlain_toJsonLinesItems {indent : String} (h : IsPlain indent) :
    ∀ items : List Data, ∀ l ∈ toJsonLinesItems indent items, IsPlain l
  | [] => nofun
  | item :: rest =>
    List.forall_mem_cons.mpr ⟨isPlain_toJsonLines h item, isPlain_toJsonLinesItems h rest⟩

theorem isPlain_toJsonLinesMembers {indent : String} (h : IsPlain indent) :
    ∀ members : List (String × Data), ∀ l ∈ toJsonLinesMembers indent members, IsPlain l
  | [] => nofun
  | (key, value) :: rest =>
    List.forall_mem_cons.mpr
      ⟨((Json.isPlain_quote key).append (by decide)).append (isPlain_toJsonLines h value),
        isPlain_toJsonLinesMembers h rest⟩

end

end Data

namespace Yaml

section Scalars

variable {s : String}

theorem isPlain_of_not_needsEscapes (h : needsEscapes s.toList = false) : IsPlain s := by
  rw [needsEscapes, Bool.or_eq_false_iff, List.any_eq_false] at h
  intro hmem
  exact absurd (h.1 _ hmem) (by decide)

theorem isPlain_of_styleOf_ne {isKey : Bool} (h : styleOf isKey s ≠ .double) : IsPlain s := by
  refine isPlain_of_not_needsEscapes ?_
  rw [Bool.eq_false_iff]
  intro hneeds
  refine h ?_
  simp [styleOf, hneeds]

theorem upperHexDigit_ne_escape : ∀ n < 16, upperHexDigit n ≠ '\x1b' := by decide

theorem not_mem_upperHex (width n : Nat) : '\x1b' ∉ upperHex width n := by
  induction width generalizing n with
  | zero => exact List.not_mem_nil
  | succ width ih =>
    have hlast := upperHexDigit_ne_escape (n % 16) (Nat.mod_lt n (by decide))
    rw [upperHex, List.mem_append, not_or, List.mem_singleton]
    exact ⟨ih (n / 16), hlast.symm⟩

theorem not_mem_escapeDouble (c : Char) : '\x1b' ∉ escapeDouble c := by
  fun_cases escapeDouble c with
  | case1 h =>
    rw [List.mem_singleton]
    rintro rfl
    cases h
  | case16 | case17 | case18 => simp [not_mem_upperHex]
  | _ => simp

theorem isPlain_quoteDouble (s : String) : IsPlain (quoteDouble s) := by
  refine isPlain_ofList ?_
  simp only [List.mem_append, List.mem_cons, List.mem_flatMap, List.not_mem_nil, or_false, not_or]
  refine ⟨⟨by decide, ?_⟩, by decide⟩
  rintro ⟨c, -, hc⟩
  exact not_mem_escapeDouble c hc

theorem not_mem_spaces (n : Nat) : '\x1b' ∉ spaces n := by
  intro hmem
  cases List.eq_of_mem_replicate hmem

theorem isPlain_spaces (n : Nat) : IsPlain (String.ofList (spaces n)) :=
  isPlain_ofList (not_mem_spaces n)

theorem not_mem_indentLines {cs : List Char} (h : '\x1b' ∉ cs) (indent : Nat) (fresh : Bool) :
    '\x1b' ∉ indentLines indent fresh cs := by
  induction cs generalizing fresh with
  | nil => exact List.not_mem_nil
  | cons c cs ih =>
    rw [List.mem_cons, not_or] at h
    rw [indentLines]
    split_ifs <;> simp [h.1, ih h.2, not_mem_spaces]

theorem isPlain_quoteSingle (h : IsPlain s) (indent : Nat) : IsPlain (quoteSingle indent s) := by
  have hdoubled : '\x1b' ∉ s.toList.flatMap fun c => if c = '\'' then ['\'', '\''] else [c] := by
    rw [List.mem_flatMap]
    rintro ⟨c, hc, hmem⟩
    split_ifs at hmem
    · simp at hmem
    · exact h (List.mem_singleton.mp hmem ▸ hc)
  have hend : '\x1b' ∉ if s.toList.getLast?.any isBreak then spaces indent else [] := by
    split_ifs
    · exact not_mem_spaces indent
    · exact List.not_mem_nil
  refine isPlain_ofList ?_
  simp [not_mem_indentLines hdoubled, hend]

theorem isPlain_blockHeader (cs : List Char) : IsPlain (blockHeader cs) := by
  unfold blockHeader
  refine IsPlain.append ?_ ?_
  · split_ifs <;> decide
  · split
    · decide
    · split_ifs <;> decide
    · split_ifs <;> decide

theorem isPlain_writeLiteral (h : IsPlain s) (indent : Nat) : IsPlain (writeLiteral indent s) := by
  have hlines := isPlain_ofList (not_mem_indentLines h indent true)
  have hend : IsPlain (if s.toList.getLast?.any isBreak then "" else "\n") := by
    split_ifs <;> decide
  exact (((IsPlain.append (by decide) (isPlain_blockHeader _)).append (by decide)).append
    hlines).append hend

theorem isPlain_writeText (indent : Nat) (s : String) : IsPlain (writeText indent s) := by
  have hnewline : IsPlain "\n" := by decide
  have hplain {style : Style} (hstyle : styleOf false s = style) (hne : style ≠ .double) :
      IsPlain s := isPlain_of_styleOf_ne (hstyle ▸ hne)
  unfold writeText
  split
  · next h => exact (hplain h (by decide)).append hnewline
  · next h => exact (isPlain_quoteSingle (hplain h (by decide)) indent).append hnewline
  · exact (isPlain_quoteDouble s).append hnewline
  · next h => exact isPlain_writeLiteral (hplain h (by decide)) indent
  · next h => exact isPlain_writeLiteral (hplain h (by decide)) indent

theorem isPlain_writeKey (indent : Nat) (s : String) : IsPlain (writeKey indent s) := by
  unfold writeKey
  split_ifs
  · refine IsPlain.append ?_ (by decide)
    split
    · next h =>
      have hne : styleOf true s ≠ .double := by
        rw [h]
        decide
      exact isPlain_of_styleOf_ne hne
    · exact isPlain_quoteDouble s
    · next h => exact isPlain_quoteSingle (isPlain_of_styleOf_ne h) indent
  · exact (((IsPlain.append (by decide) (isPlain_writeText _ _)).append
      (isPlain_spaces indent))).append (by decide)

end Scalars

end Yaml

namespace Data

open Yaml

mutual

theorem isPlain_toYamlAt (indent : Nat) : ∀ d : Data, IsPlain (d.toYamlAt indent)
  | .null => isPlain_null.append (b := "\n") (by decide)
  | .bool b => (isPlain_bool b).append (by decide)
  | .nat n => (isPlain_toString n).append (by decide)
  | .text s => isPlain_writeText _ s
  | .list [] => isPlain_empty.append (b := "[]\n") (by decide)
  | .list (item :: rest) =>
    (IsPlain.append (by decide) (isPlain_toYamlAt (indent + 2) item)).append
      (isPlain_toYamlItems indent rest)
  | .record [] => isPlain_empty.append (b := "\x7b\x7d\n") (by decide)
  | .record ((key, value) :: rest) =>
    (isPlain_toYamlMember indent key value).append (isPlain_toYamlMembers indent rest)

theorem isPlain_toYamlItems (indent : Nat) : ∀ items : List Data,
    IsPlain (toYamlItems indent items)
  | [] => isPlain_empty
  | item :: rest =>
    (((isPlain_spaces indent).append (by decide)).append
      (isPlain_toYamlAt (indent + 2) item)).append (isPlain_toYamlItems indent rest)

theorem isPlain_toYamlMember (indent : Nat) (key : String) : ∀ value : Data,
    IsPlain (toYamlMember indent key value)
  | .list (item :: rest) =>
    (isPlain_writeKey indent key).append
      (IsPlain.append (by decide) (isPlain_toYamlItems indent (item :: rest)))
  | .record ((k, v) :: rest) =>
    (isPlain_writeKey indent key).append
      (IsPlain.append (by decide) (isPlain_toYamlMembers (indent + 2) ((k, v) :: rest)))
  | .null => (isPlain_writeKey indent key).append (b := " null\n") (by decide)
  | .bool b =>
    (isPlain_writeKey indent key).append
      ((IsPlain.append (by decide) (isPlain_bool b)).append (by decide))
  | .nat n =>
    (isPlain_writeKey indent key).append
      ((IsPlain.append (by decide) (isPlain_toString n)).append (by decide))
  | .text s =>
    (isPlain_writeKey indent key).append
      (IsPlain.append (by decide) (isPlain_writeText (indent + 2) s))
  | .list [] => (isPlain_writeKey indent key).append (b := " []\n") (by decide)
  | .record [] => (isPlain_writeKey indent key).append (b := " \x7b\x7d\n") (by decide)

theorem isPlain_toYamlMembers (indent : Nat) : ∀ members : List (String × Data),
    IsPlain (toYamlMembers indent members)
  | [] => isPlain_empty
  | (key, value) :: rest =>
    ((isPlain_spaces indent).append (isPlain_toYamlMember indent key value)).append
      (isPlain_toYamlMembers indent rest)

end

theorem isPlain_toJsonPretty (d : Data) : IsPlain d.toJsonPretty :=
  isPlain_toJsonLines isPlain_empty d

theorem isPlain_toYaml (d : Data) : IsPlain d.toYaml := isPlain_toYamlAt 0 d

end Data

end CleanSql
