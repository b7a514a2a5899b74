import CleanSql.Proofs.NumeralText
import CleanSql.Proofs.Quoting.Literal
import CleanSql.Proofs.Replacement.Kind

/-!
# Bare replacements

A replacement is written bare if it is a numeral or a truth value, and else it is quoted so that it
is read back. A numeral has decimal digits of any script; a number of SQL has those of ASCII
(`isNumberOver_isDigit_iff`). Numerals of other digits are the only replacements that show outside
of quotes with characters beyond ASCII (`Profile.writeTypedLiteral_bare`).
-/
namespace CleanSql

def Text.isAscii (c : Char) : Bool := c.toNat < 128

namespace NumberText

open NumeralText (Sign)
open TypeText (Run)

/-- Digits, a fraction behind them or alone. -/
inductive Mantissa (digit : Char → Bool) : List Char → Prop where
  | whole {n : List Char} (hn : Run digit n) : Mantissa digit n
  | fraction {n m : List Char} (hn : Run digit n) (hm : ∀ c ∈ m, digit c) :
    Mantissa digit (n ++ '.' :: m)
  | fractionOnly {m : List Char} (hm : Run digit m) : Mantissa digit ('.' :: m)

inductive Exponent (digit : Char → Bool) : List Char → Prop where
  | absent : Exponent digit []
  | present {mark : Char} {s n : List Char} (hmark : mark = 'e' ∨ mark = 'E') (hs : Sign s)
    (hn : Run digit n) : Exponent digit (mark :: s ++ n)

end NumberText

/-- A number with digits of one kind. -/
def IsNumberOver (digit : Char → Bool) (cs : List Char) : Prop :=
  ∃ s m e, NumeralText.Sign s ∧ NumberText.Mantissa digit m ∧ NumberText.Exponent digit e ∧
    cs = s ++ m ++ e

namespace NumberText

open NumeralText (Sign)
open TypeText (Run)

def extras : List Char := ['+', '-', '.', 'e', 'E']

variable {k l : Char → Bool} {cs : List Char}

theorem Run.imp (h : ∀ c ∈ cs, k c → l c) (hcs : Run k cs) : Run l cs :=
  ⟨hcs.1, fun c hc => h c hc (hcs.2 c hc)⟩

theorem Mantissa.imp (h : ∀ c ∈ cs, k c → l c) (hcs : Mantissa k cs) : Mantissa l cs := by
  cases hcs with
  | whole hn => exact .whole (Run.imp h hn)
  | fraction hn hm =>
    exact .fraction (Run.imp (fun c hc => h c (by simp [hc])) hn)
      fun c hc => h c (by simp [hc]) (hm c hc)
  | fractionOnly hm => exact .fractionOnly (Run.imp (fun c hc => h c (by simp [hc])) hm)

theorem Exponent.imp (h : ∀ c ∈ cs, k c → l c) (hcs : Exponent k cs) : Exponent l cs := by
  cases hcs with
  | absent => exact .absent
  | present hmark hs hn =>
    exact .present hmark hs (Run.imp (fun c hc => h c (by simp [hc])) hn)

theorem mem_extras_of_sign (hs : Sign cs) : ∀ c ∈ cs, c ∈ extras := by
  obtain rfl | rfl | rfl := hs <;> simp [extras]

theorem Mantissa.mem (h : Mantissa k cs) : ∀ c ∈ cs, k c ∨ c ∈ extras := by
  intro c hc
  cases h with
  | whole hn => exact .inl (hn.2 c hc)
  | fraction hn hm =>
    obtain hc | rfl | hc : c ∈ _ ∨ c = '.' ∨ c ∈ _ := by simpa using hc
    · exact .inl (hn.2 c hc)
    · exact .inr (by decide)
    · exact .inl (hm c hc)
  | fractionOnly hm =>
    obtain rfl | hc := List.mem_cons.mp hc
    · exact .inr (by decide)
    · exact .inl (hm.2 c hc)

theorem Exponent.mem (h : Exponent k cs) : ∀ c ∈ cs, k c ∨ c ∈ extras := by
  intro c hc
  cases h with
  | absent => cases hc
  | present hmark hs hn =>
    obtain rfl | hc | hc : c = _ ∨ c ∈ _ ∨ c ∈ _ := by simpa using hc
    · exact .inr (by obtain rfl | rfl := hmark <;> decide)
    · exact .inr (mem_extras_of_sign hs c hc)
    · exact .inl (hn.2 c hc)

end NumberText

namespace IsNumberOver

variable {k l : Char → Bool} {cs : List Char}

theorem imp (h : ∀ c ∈ cs, k c → l c) (hcs : IsNumberOver k cs) : IsNumberOver l cs := by
  obtain ⟨s, m, e, hs, hm, he, rfl⟩ := hcs
  exact ⟨s, m, e, hs, hm.imp fun c hc => h c (by simp [hc]), he.imp fun c hc => h c (by simp [hc]),
    rfl⟩

theorem mem (h : IsNumberOver k cs) : ∀ c ∈ cs, k c ∨ c ∈ NumberText.extras := by
  obtain ⟨s, m, e, hs, hm, he, rfl⟩ := h
  intro c hc
  obtain hc | hc | hc : c ∈ s ∨ c ∈ m ∨ c ∈ e := by simpa using hc
  · exact .inr (NumberText.mem_extras_of_sign hs c hc)
  · exact hm.mem c hc
  · exact he.mem c hc

end IsNumberOver

section Grammar

open NumberText

variable {cs : List Char}

/-- Numerals are numbers with digits of any script. -/
theorem isNumeralText_iff : IsNumeralText cs ↔ IsNumberOver Text.isDecimalDigit cs := by
  constructor
  · rintro ⟨s, m, hs, hm, hcs⟩
    have hmantissa : Mantissa Text.isDecimalDigit m := by
      obtain hm | ⟨n, r, hn, hr, rfl⟩ | ⟨r, hr, rfl⟩ := hm
      · exact .whole hm
      · exact .fraction hn hr
      · exact .fractionOnly hr
    obtain rfl | ⟨_, ⟨mark, g, n, hmark, hg, hn, rfl⟩, rfl⟩ := hcs
    · exact ⟨s, m, [], hs, hmantissa, .absent, by simp⟩
    · exact ⟨s, m, _, hs, hmantissa, .present hmark hg hn, rfl⟩
  · rintro ⟨s, m, e, hs, hm, he, rfl⟩
    have hmantissa : NumeralText.Mantissa m := by
      cases hm with
      | whole hn => exact .inl hn
      | fraction hn hr => exact .inr (.inl ⟨_, _, hn, hr, rfl⟩)
      | fractionOnly hr => exact .inr (.inr ⟨_, hr, rfl⟩)
    cases he with
    | absent => exact ⟨s, m, hs, hmantissa, .inl (by simp)⟩
    | present hmark hg hn =>
      exact ⟨s, m, hs, hmantissa, .inr ⟨_, ⟨_, _, _, hmark, hg, hn, rfl⟩, rfl⟩⟩

theorem Text.isDigit_iff {c : Char} : c.isDigit ↔ isDecimalDigit c ∧ isAscii c := by
  constructor
  · intro h
    refine ⟨isDecimalDigit_of_isDigit h, ?_⟩
    have hrange := isDigit_iff_range.mp h
    rw [isAscii, decide_eq_true_eq]
    omega
  · rintro ⟨hdecimal, hascii⟩
    obtain ⟨first, hfirst, hrange⟩ := List.any_eq_true.mp hdecimal
    have hrange : first ≤ c.toNat ∧ c.toNat ≤ first + 9 := by simpa using hrange
    have hzeros : ∀ z ∈ digitZeros, z = 48 ∨ 128 ≤ z := by decide
    have hzero := hzeros first hfirst
    rw [isAscii, decide_eq_true_eq] at hascii
    have hdigit : 48 ≤ c.toNat ∧ c.toNat ≤ 57 := by omega
    exact isDigit_iff_range.mpr hdigit

/-- A number of SQL is a numeral of ASCII. -/
theorem isNumberOver_isDigit_iff :
    IsNumberOver Char.isDigit cs ↔ IsNumeralText cs ∧ ∀ c ∈ cs, Text.isAscii c := by
  rw [isNumeralText_iff]
  constructor
  · intro h
    refine ⟨h.imp fun c _ hc => (Text.isDigit_iff.mp hc).1, fun c hc => ?_⟩
    have hextras : ∀ c ∈ extras, Text.isAscii c := List.all_eq_true.mp (by decide)
    exact (h.mem c hc).elim (fun hdigit => (Text.isDigit_iff.mp hdigit).2) (hextras c)
  · rintro ⟨h, hascii⟩
    exact h.imp fun c hc hdigit => Text.isDigit_iff.mpr ⟨hdigit, hascii c hc⟩

theorem isPlain_of_isNumeralText (h : IsNumeralText cs) : ∀ c ∈ cs, isPlain c := by
  intro c hc
  obtain hdigit | hextra := (isNumeralText_iff.mp h).mem c hc
  · exact isPlain_of_kind (by decide) hdigit
  · have hextras : ∀ c ∈ extras, isPlain c := List.all_eq_true.mp (by decide)
    exact hextras c hextra

end Grammar

section Skeletons

variable {p : Profile}

theorem skeleton_of_isPlain {s : String} (h : ∀ c ∈ s.toList, isPlain c) : skeleton p s = s := by
  have hcode {c : Char} (hc : isPlain c) : LexMode.code.step p c = .code :=
    (ScanState.mode_of_step (ScanState.step_of_isPlain hc 0)).symm
  have hread : ∀ cs : List Char, (∀ c ∈ cs, isPlain c) →
      LexMode.run p .code cs = .code ∧ LexMode.trail p .code cs = cs := by
    intro cs
    induction cs with
    | nil => exact fun _ => ⟨rfl, rfl⟩
    | cons c cs ih =>
      intro hcs
      rw [List.forall_mem_cons] at hcs
      obtain ⟨hrun, htrail⟩ := ih hcs.2
      rw [LexMode.run_cons, LexMode.trail, hcode hcs.1, hrun, htrail]
      exact ⟨rfl, rfl⟩
  obtain ⟨hrun, htrail⟩ := hread s.toList h
  rw [skeleton, hrun, htrail]
  simp [LexMode.lastQuote]

theorem skeleton_quoteLiteral (value : String) : skeleton p (p.quoteLiteral value) = "''" := by
  rw [skeleton, LexMode.trail_quoteLiteral, LexMode.run_quoteLiteral]
  rfl

end Skeletons

namespace LiteralKind

variable (d : Dialect)

theorem skeleton_write_moment (type : DataType) (value : String) :
    skeleton d.profile ((moment type).write d.profile value) =
      skeleton d.profile ((moment type).write d.profile "") := by
  have hpart : ∀ sql ∈ (d.profile.castFrame (.engine type)).parts, Closed d.profile sql := by
    intro sql hsql
    obtain ⟨n, rfl⟩ | ⟨t, ht⟩ | ⟨name, hname, -⟩ :=
      Stage.mem_parts (s := .cast (.engine type)) hsql
    · exact (neutral_toString _ n).closed
    · exact (d.neutral_castTarget ht).closed
    · cases hname
  have hbalanced := Stage.balanced_frame d (.cast (.engine type))
  rw [write, write, ← Profile.fill_castFrame, ← Profile.fill_castFrame]
  exact (Frame.alike_fill hbalanced hbalanced rfl hpart hpart (.quoteLiteral value "")).skeleton_eq

/-- Only a number can show more than ASCII outside of quotes. -/
theorem ascii_skeleton_write {k : LiteralKind} {value : String} (hk : k.Fits value) :
    (∀ c ∈ (skeleton d.profile (k.write d.profile value)).toList, Text.isAscii c) ↔
      (k = number → ∀ c ∈ (Text.trim value).toList, Text.isAscii c) := by
  cases hk with
  | number h =>
    rw [write, skeleton_of_isPlain (isPlain_of_isNumeralText ((isNumeral_iff _).mp h))]
    simp
  | truth b =>
    have hascii : ∀ c ∈ (skeleton d.profile (d.profile.writeBoolean b)).toList,
        Text.isAscii c := by
      apply List.all_eq_true.mp
      cases d <;> cases b <;> decide
    exact iff_of_true hascii (by simp)
  | @moment type htype =>
    have hascii : ∀ c ∈ (skeleton d.profile ((moment type).write d.profile "")).toList,
        Text.isAscii c := by
      apply List.all_eq_true.mp
      cases type <;> cases htype <;> cases d <;> decide
    rw [skeleton_write_moment]
    exact iff_of_true hascii (by simp)
  | quoted =>
    rw [write, skeleton_quoteLiteral]
    exact iff_of_true (List.all_eq_true.mp (by decide)) (by simp)

end LiteralKind

namespace Profile

variable (p : Profile) (value : String)

/-- What is written is a bare literal, one of those that the text can stand for, or if there is none
the text in quotes, with a remark. -/
def IsBareOrQuoted (literals : String → Prop) (remark : Caveat) (f : Fragment) : Prop :=
  (∀ sql, f = .exact sql ↔ literals sql) ∧
    ((∀ sql, ¬ literals sql) → f = .approximate (p.quoteLiteral value) remark)

theorem isBareOrQuoted_numeric {type : DataType} (h : type.isNumeric) :
    p.IsBareOrQuoted value
      (fun sql => IsNumeralText (Text.trim value).toList ∧ sql = Text.trim value)
      (.notNumeric value) (p.writeTypedLiteral type value) := by
  have hwrite : p.writeTypedLiteral type value =
      if isNumeral (Text.trim value) then .exact (Text.trim value)
      else .approximate (p.quoteLiteral value) (.notNumeric value) := by
    simp [writeTypedLiteral, h]
  rw [hwrite, ← isNumeral_iff]
  by_cases hnumeral : isNumeral (Text.trim value)
  · simp [IsBareOrQuoted, hnumeral, eq_comm]
  · simp [IsBareOrQuoted, hnumeral]

theorem isBareOrQuoted_boolean :
    p.IsBareOrQuoted value
      (fun sql => ∃ b, (Text.trim value).toLower = (if b then "true" else "false") ∧
        sql = p.writeBoolean b)
      (.notBoolean value) (p.writeTypedLiteral .boolean value) := by
  have hwrite : p.writeTypedLiteral .boolean value =
      if (Text.trim value).toLower = "true" then .exact (p.writeBoolean true)
      else if (Text.trim value).toLower = "false" then .exact (p.writeBoolean false)
      else .approximate (p.quoteLiteral value) (.notBoolean value) := by
    simp only [writeTypedLiteral, DataType.isNumeric, DataType.isTemporal]
    generalize (Text.trim value).toLower = word
    by_cases htrue : word = "true"
    · simp [htrue]
    · by_cases hfalse : word = "false" <;> simp [htrue, hfalse]
  rw [hwrite]
  by_cases htrue : (Text.trim value).toLower = "true"
  · simp [IsBareOrQuoted, htrue, eq_comm]
  · by_cases hfalse : (Text.trim value).toLower = "false"
    · simp [IsBareOrQuoted, hfalse, eq_comm]
    · simp [IsBareOrQuoted, htrue, hfalse]

/-- A number is written bare if its text is a numeral, and a truth value if it is "true" or "false"
in letters of either case. Any other text is written in quotes, and is what is read from these. A
numeral is a number of SQL if it is of ASCII; if it is not, it is put outside of quotes with digits
that SQL does not have, and nothing else beyond ASCII is ever put there. -/
theorem writeTypedLiteral_bare (d : Dialect) (value : String) :
    (∀ type : DataType, type.isNumeric →
      d.profile.IsBareOrQuoted value
        (fun sql => IsNumeralText (Text.trim value).toList ∧ sql = Text.trim value)
        (.notNumeric value) (d.profile.writeTypedLiteral type value)) ∧
    d.profile.IsBareOrQuoted value
      (fun sql => ∃ b, (Text.trim value).toLower = (if b then "true" else "false") ∧
        sql = d.profile.writeBoolean b)
      (.notBoolean value) (d.profile.writeTypedLiteral .boolean value) ∧
    d.profile.readLiteral (d.profile.quoteLiteral value) = some (value, "") ∧
    (IsNumberOver Char.isDigit (Text.trim value).toList ↔
      IsNumeralText (Text.trim value).toList ∧ ∀ c ∈ (Text.trim value).toList, Text.isAscii c) ∧
    ∀ type : DataType, ∃ sql, (d.profile.writeTypedLiteral type value).sql? = some sql ∧
      ((∀ c ∈ (skeleton d.profile sql).toList, Text.isAscii c) ↔
        (type.isNumeric → IsNumeralText (Text.trim value).toList →
          IsNumberOver Char.isDigit (Text.trim value).toList)) := by
  refine ⟨fun type h => d.profile.isBareOrQuoted_numeric value h,
    d.profile.isBareOrQuoted_boolean value, ?_, isNumberOver_isDigit_iff, fun type =>
      ⟨_, d.profile.sql?_writeTypedLiteral type value, ?_⟩⟩
  · have hread := d.profile.read_quoteLiteral value (by simp : _ → [].head? ≠ some '\'')
    rw [List.append_nil] at hread
    rw [readLiteral, QuoteRule.readText, hread, Option.map_some, String.ofList_toList]
  · have hnumber : type.literalKind value = .number ↔
        type.isNumeric ∧ IsNumeralText (Text.trim value).toList := by
      rw [← isNumeral_iff]
      exact DataType.literalKind_eq_number_iff
    rw [LiteralKind.ascii_skeleton_write d (type.fits_literalKind value), hnumber,
      isNumberOver_isDigit_iff]
    exact ⟨fun h hnumeric hnumeral => ⟨hnumeral, h ⟨hnumeric, hnumeral⟩⟩,
      fun h hboth => (h hboth.1 hboth.2).2⟩

theorem writeTypedLiteral_bare_exponent :
    DataType.float.isNumeric ∧
    Dialect.spark.profile.writeTypedLiteral .float " -1.5e3\n" = .exact "-1.5e3" ∧
    IsNumberOver Char.isDigit "-1.5e3".toList := by
  have h := writeTypedLiteral_bare .spark " -1.5e3\n"
  have htrim : Text.trim " -1.5e3\n" = "-1.5e3" := by decide
  have hnumeral : IsNumeralText "-1.5e3".toList := by decide
  rw [htrim] at h
  exact ⟨rfl, ((h.1 .float rfl).1 _).mpr ⟨hnumeral, rfl⟩,
    h.2.2.2.1.mpr ⟨hnumeral, List.all_eq_true.mp (by decide)⟩⟩

/-- The digit three of Arabic is written bare. -/
theorem not_forall_exact_iff_number :
    ¬ ∀ (d : Dialect) (type : DataType) (value : String), type.isNumeric →
      ((∃ sql, d.profile.writeTypedLiteral type value = .exact sql) ↔
        IsNumberOver Char.isDigit (Text.trim value).toList) := by
  intro hall
  have hnumber := (hall .ansi .integer "\u0663" rfl).mp ⟨"\u0663", by decide⟩
  have hascii := (isNumberOver_isDigit_iff.mp hnumber).2 '\u0663' (by decide)
  exact absurd hascii (by decide)

end Profile

end CleanSql
