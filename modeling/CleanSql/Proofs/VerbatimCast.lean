import CleanSql.Proofs.Malformed
import CleanSql.Proofs.SkippedCast

/-!
# Casts to types of the dialect

A text that is to be cast to is the usual name of a type, or is written as it stands if it is of the
grammar of type names, or is malformed (`Transformations.castRequest?_eq_verbatim_iff`,
`Column.unreadableType_mem_diagnostics_iff`). A text of the grammar has none of the signs by which
SQL is put together but a comma and parentheses, which it closes (`TypeText.not_mem_sqlSigns`,
`TypeText.matched`). It comes to stand in the cast around all other stages
(`Column.staged_verbatim`).
-/
namespace CleanSql

namespace DataType

def castNames : DataType → List String
  | string => ["string", "text", "str"]
  | integer => ["integer", "int", "bigint"]
  | float => ["float", "double", "real"]
  | boolean => ["boolean", "bool"]
  | date => ["date"]
  | timestamp => ["timestamp", "datetime"]
  | json => ["json"]

theorem ofCastName?_eq_some_iff {name : String} {type : DataType} :
    ofCastName? name = some type ↔ (Text.trim name).toLower ∈ type.castNames := by
  unfold ofCastName?
  generalize (Text.trim name).toLower = small
  split <;> cases type <;> simp_all [castNames]

theorem ofCastName?_eq_none_iff {name : String} :
    ofCastName? name = none ↔ ∀ type : DataType, (Text.trim name).toLower ∉ type.castNames := by
  simp only [← ofCastName?_eq_some_iff, Option.eq_none_iff_forall_ne_some, ne_eq]

end DataType

namespace Text

/-- Every parenthesis that is opened is closed, and none is closed that is not open. -/
inductive Matched : List Char → Prop where
  | nil : Matched []
  | plain {c : Char} {cs : List Char} (hc : c ≠ '(' ∧ c ≠ ')') (h : Matched cs) : Matched (c :: cs)
  | nest {cs ds : List Char} (hin : Matched cs) (hbehind : Matched ds) :
    Matched ('(' :: cs ++ ')' :: ds)

variable {xs ys : List Char}

theorem Matched.of_plain (h : ∀ c ∈ xs, c ≠ '(' ∧ c ≠ ')') : Matched xs := by
  induction xs with
  | nil => exact .nil
  | cons c xs ih =>
    rw [List.forall_mem_cons] at h
    exact .plain h.1 (ih h.2)

theorem Matched.append (hx : Matched xs) (hy : Matched ys) : Matched (xs ++ ys) := by
  induction hx with
  | nil => exact hy
  | plain hc _ ih => exact .plain hc ih
  | nest hin _ _ ih =>
    rw [List.append_assoc, List.cons_append]
    exact .nest hin ih

end Text

/-- The quotes, the brackets other than parentheses, and the signs that end statements, begin
comments and make operators. -/
def sqlSigns : List Char :=
  ['\'', '"', '\x60', ';', '[', ']', '\x7b', '\x7d', '<', '>', '=', '!', '+', '-', '*', '/', '%',
    '|', '&', '^', '~', '#', '@', '$', '?', ':', '.', '\\']

namespace TypeText

def isOuterChar (c : Char) : Bool := isWordChar c || Text.isBlank c

def isInnerChar (c : Char) : Bool := Text.isBlank c || Text.isDecimalDigit c || c == ','

def isTypeChar (c : Char) : Bool := isOuterChar c || isInnerChar c || c == '(' || c == ')'

variable {cs : List Char}

theorem Word.outer (h : Word cs) : ∀ c ∈ cs, isOuterChar c := by
  obtain ⟨a, r, rfl, ha, hr⟩ := h
  rw [List.forall_mem_cons]
  exact ⟨by simp [isOuterChar, isWordChar_of_isAlpha ha],
    fun c hc => by simp [isOuterChar, hr c hc]⟩

theorem Blanks.outer (h : Blanks cs) : ∀ c ∈ cs, isOuterChar c :=
  fun c hc => by simp [isOuterChar, h c hc]

theorem Words.outer (h : Words cs) : ∀ c ∈ cs, isOuterChar c := by
  induction h with
  | one hw => exact hw.outer
  | more _ hb hw ih =>
    have hwords := List.forall_mem_append.mpr ⟨ih, Blanks.outer hb.2⟩
    exact List.forall_mem_append.mpr ⟨hwords, hw.outer⟩

theorem Number.inner (h : Number cs) : ∀ c ∈ cs, isInnerChar c := by
  obtain ⟨b, n, g, hb, hn, hg, rfl⟩ := h
  intro c hc
  simp only [List.mem_append] at hc
  obtain (hc | hc) | hc := hc
  · simp [isInnerChar, hb c hc]
  · simp [isInnerChar, hn.2 c hc]
  · simp [isInnerChar, hg c hc]

theorem Arguments.exists_inner (h : Arguments cs) :
    ∃ inner : List Char, (∀ c ∈ inner, isInnerChar c) ∧ cs = '(' :: inner ++ [')'] := by
  obtain ⟨n, hn, rfl⟩ | ⟨n, m, hn, hm, rfl⟩ := h
  · exact ⟨n, hn.inner, rfl⟩
  · refine ⟨n ++ ',' :: m, List.forall_mem_append.mpr ⟨hn.inner, ?_⟩, by simp⟩
    exact List.forall_mem_cons.mpr ⟨rfl, hm.inner⟩

/-- A type name is a text without parentheses, and perhaps a pair of them behind it. -/
theorem exists_outer (h : IsTypeText cs) : ∃ outer : List Char, (∀ c ∈ outer, isOuterChar c) ∧
    (cs = outer ∨ ∃ inner : List Char, (∀ c ∈ inner, isInnerChar c) ∧
      cs = outer ++ ('(' :: inner ++ [')'])) := by
  obtain h | ⟨ws, b, as, hws, hb, has, rfl⟩ := h
  · exact ⟨cs, h.outer, .inl rfl⟩
  · obtain ⟨inner, hinner, rfl⟩ := has.exists_inner
    exact ⟨ws ++ b, List.forall_mem_append.mpr ⟨hws.outer, hb.outer⟩, .inr ⟨inner, hinner, rfl⟩⟩

theorem isTypeChar_of_mem (h : IsTypeText cs) : ∀ c ∈ cs, isTypeChar c := by
  have houter {c : Char} (hc : isOuterChar c) : isTypeChar c := by simp [isTypeChar, hc]
  have hinner {c : Char} (hc : isInnerChar c) : isTypeChar c := by simp [isTypeChar, hc]
  obtain ⟨outer, ho, rfl | ⟨inner, hi, rfl⟩⟩ := exists_outer h
  · exact fun c hc => houter (ho c hc)
  · intro c hc
    simp only [List.mem_append, List.mem_cons, List.not_mem_nil, or_false] at hc
    obtain hc | (rfl | hc) | rfl := hc
    · exact houter (ho c hc)
    · rfl
    · exact hinner (hi c hc)
    · rfl

theorem not_mem_sqlSigns (h : IsTypeText cs) : ∀ c ∈ cs, c ∉ sqlSigns := by
  have hsigns : sqlSigns.any isTypeChar = false := by decide
  intro c hc hsign
  have hany := List.any_eq_true.mpr ⟨c, hsign, isTypeChar_of_mem h c hc⟩
  rw [hsigns] at hany
  cases hany

/-- A type name closes the parentheses that it opens. -/
theorem matched (h : IsTypeText cs) : Text.Matched cs := by
  have hplain {kind : Char → Bool} (ho : kind '(' = false) (hc : kind ')' = false)
      {xs : List Char} (hxs : ∀ c ∈ xs, kind c) : Text.Matched xs := by
    refine .of_plain fun c hmem => ⟨?_, ?_⟩
    · rintro rfl
      exact absurd (hxs _ hmem) (by simp [ho])
    · rintro rfl
      exact absurd (hxs _ hmem) (by simp [hc])
  obtain ⟨outer, houter, rfl | ⟨inner, hinner, rfl⟩⟩ := exists_outer h
  · exact hplain (by decide) (by decide) houter
  · exact (hplain (by decide) (by decide) houter).append
      (.nest (hplain (by decide) (by decide) hinner) .nil)

end TypeText

theorem CastReading.of_eq_verbatim_iff {text name : String} :
    CastReading.of text = .request (.verbatim name) ↔
      name = Text.trim text ∧ name ≠ "" ∧ DataType.ofCastName? name = none ∧
        IsTypeText name.toList := by
  unfold CastReading.of
  rw [← isTypeName_iff]
  dsimp only
  constructor
  · intro h
    split_ifs at h with hempty hplain
    · split at h
      · cases h
      · next hname =>
        cases h
        exact ⟨rfl, hempty, hname, hplain⟩
    · split at h <;> cases h
  · rintro ⟨rfl, hne, hname, hplain⟩
    rw [if_neg hne, hname]
    exact if_pos hplain

example : CastReading.of " DECIMAL( 1 ,2 ) " = .request (.verbatim "DECIMAL( 1 ,2 )") ∧
    CastReading.of "DECIMAL(1, 2, 3)" = .unreadable "DECIMAL(1, 2, 3)" := by decide +kernel

namespace Transformations

variable {t : Transformations} {name text : String}

theorem castRequest?_eq_verbatim_iff : t.castRequest? = some (.verbatim name) ↔
    name = Text.trim t.typeCast ∧ name ≠ "" ∧ DataType.ofCastName? name = none ∧
      IsTypeText name.toList := by
  rw [← CastReading.of_eq_verbatim_iff, castRequest?]
  cases CastReading.of t.typeCast with
  | request r => simp [CastReading.request?]
  | absent | unreadable _ => simp [CastReading.request?]

theorem unreadableType_mem_malformations_iff : .unreadableType text ∈ t.malformations ↔
    text = Text.trim t.typeCast ∧ text ≠ "" ∧ DataType.ofCastName? text = none ∧
      ¬ IsTypeText text.toList := by
  rw [mem_malformations]
  constructor
  · rintro (_ | _ | _ | _ | _ | _ | ⟨hne, hname, htext⟩)
    exact ⟨rfl, hne, hname, htext⟩
  · rintro ⟨rfl, hne, hname, htext⟩
    exact .unreadableType hne hname htext

end Transformations

/-- No other malformation is told like an unreadable type. -/
theorem Malformation.message_eq_iff {m : Malformation} {text : String} :
    m.message = (unreadableType text).message ↔ m = unreadableType text := by
  have hfirst : (unreadableType text).message.toList.head? = some 't' := by
    unfold message
    simp
  refine ⟨fun h => ?_, congrArg message⟩
  rw [← h] at hfirst
  cases m with
  | unreadableType other =>
    unfold message at h
    simpa using h
  | emptyDelimiter | emptyPattern | noCases | emptyFilter => exact absurd hfirst (by decide)
  | indexOutOfRange _ | emptyCondition _ =>
    unfold message at hfirst
    simp at hfirst

namespace Column

section

variable (d : Dialect) {c : Column} {name text : String}

theorem staged_verbatim (p : Profile)
    (h : c.transformations.castRequest? = some (.verbatim name)) :
    (c.staged p).expression = p.writeCastTo name (c.uncast.staged p).expression := by
  have htrim : Text.trim name = name := by
    rw [(castRequest?_verbatim h).2, Text.trim_trim]
  have hframes : c.stageFrames p = c.uncast.stageFrames p ++ [p.castToFrame name] := by
    have htext : c.uncast.transformations.textStages = c.transformations.textStages := rfl
    rw [stageFrames_eq, stageFrames_eq, castRequest?_uncast, h, htext]
    simp [Profile.castFrame, htrim]
  have hstart : c.uncast.startExpression p = c.startExpression p := rfl
  rw [staged_expression, staged_expression, hframes, Frame.around_append, hstart,
    Frame.around_cons, Frame.around_nil, Profile.fill_castToFrame]

/-- Behind the cast come a fallback and cases. -/
theorem expression_eq_around_staged (hsound : c.transformations.malformations = []) :
    (c.compile d).expression =
      Frame.around d.profile (c.staged d.profile).expression
        (c.fillFrames d.profile ++ c.caseFrames) := by
  rw [compile_of_sound d hsound, staged_expression, ← Frame.around_append, ← List.append_assoc]
  exact c.value_eq_around d.profile

theorem unreadableType_mem_diagnostics_iff :
    ⟨.error, .malformedConfig, c.name, (Malformation.unreadableType text).message⟩ ∈
      (c.compile d).diagnostics ↔ .unreadableType text ∈ c.transformations.malformations := by
  by_cases hsound : c.transformations.malformations = []
  · have hnone := (c.exists_error_iff d).not.mpr (not_not.mpr hsound)
    rw [hsound]
    exact iff_of_false (fun h => hnone ⟨_, h, rfl⟩) List.not_mem_nil
  · rw [compile_of_malformed d hsound, degraded, List.mem_map]
    constructor
    · rintro ⟨m, hm, hdiagnostic⟩
      rwa [← Malformation.message_eq_iff.mp (Diagnostic.mk.inj hdiagnostic).2.2.2]
    · exact fun h => ⟨_, h, rfl⟩

end

/-- A text to cast to, without the blanks around it and if it is not the usual name of a type, is
written as it stands exactly if it is of the grammar of type names, and else it is malformed. Where
it is written, it stands in the cast around what the other stages make of the column, and it has no
signs that could put SQL together and no parenthesis without its other half. -/
theorem verbatimCast_iff_isTypeText (d : Dialect) (c : Column) :
    (∀ name, c.transformations.castRequest? = some (.verbatim name) ↔
      name = Text.trim c.transformations.typeCast ∧ name ≠ "" ∧
        (∀ type : DataType, name.toLower ∉ type.castNames) ∧ IsTypeText name.toList) ∧
    (∀ text, ⟨.error, .malformedConfig, c.name,
          "type_cast '" ++ text ++ "' is not a recognizable type name"⟩ ∈
        (c.compile d).diagnostics ↔
      text = Text.trim c.transformations.typeCast ∧ text ≠ "" ∧
        (∀ type : DataType, text.toLower ∉ type.castNames) ∧ ¬ IsTypeText text.toList) ∧
    ∀ name, c.transformations.castRequest? = some (.verbatim name) →
      (c.staged d.profile).expression =
        (match d.profile.castStyle with
        | .function => "CAST(" ++ (c.uncast.staged d.profile).expression ++ " AS " ++ name ++ ")"
        | .doubleColon => "(" ++ (c.uncast.staged d.profile).expression ++ ")::" ++ name) ∧
      (c.transformations.malformations = [] → (c.compile d).expression =
        Frame.around d.profile (c.staged d.profile).expression
          (c.fillFrames d.profile ++ c.caseFrames)) ∧
      (∀ ch ∈ name.toList, ch ∉ sqlSigns) ∧ Text.Matched name.toList := by
  have hnames {name : String} (h : name = Text.trim c.transformations.typeCast) :
      DataType.ofCastName? name = none ↔
        ∀ type : DataType, name.toLower ∉ type.castNames := by
    rw [DataType.ofCastName?_eq_none_iff, h, Text.trim_trim]
  refine ⟨fun name => ?_, fun text => ?_, fun name h => ?_⟩
  · rw [Transformations.castRequest?_eq_verbatim_iff]
    exact and_congr_right fun hname => and_congr_right fun _ => and_congr_left' (hnames hname)
  · refine (unreadableType_mem_diagnostics_iff d).trans ?_
    rw [Transformations.unreadableType_mem_malformations_iff]
    exact and_congr_right fun htext => and_congr_right fun _ => and_congr_left' (hnames htext)
  · obtain ⟨-, -, -, htext⟩ := Transformations.castRequest?_eq_verbatim_iff.mp h
    exact ⟨staged_verbatim d.profile h, expression_eq_around_staged d,
      TypeText.not_mem_sqlSigns htext, TypeText.matched htext⟩

/-- A column that is to be cast to a type of two words and two numbers, with blanks wherever they
can stand. -/
def spacedColumn : Column where
  name := "n"
  transformations := { trim := true, typeCast := "\t DOUBLE\u00a0 precision ( ١٢ , 3\n)  " }

theorem verbatimCast_spacedColumn :
    spacedColumn.transformations.castRequest? =
      some (.verbatim "DOUBLE\u00a0 precision ( ١٢ , 3\n)") ∧
    spacedColumn.transformations.malformations = [] ∧
    (spacedColumn.compile .postgresql).expression =
      "(TRIM(\"n\"))::DOUBLE\u00a0 precision ( ١٢ , 3\n)" ∧
    Text.Matched ("DOUBLE\u00a0 precision ( ١٢ , 3\n)" : String).toList := by
  have hcast : spacedColumn.transformations.castRequest? =
      some (.verbatim "DOUBLE\u00a0 precision ( ١٢ , 3\n)") := by decide +kernel
  have hsound : spacedColumn.transformations.malformations = [] := by decide +kernel
  obtain ⟨-, -, hwritten⟩ := verbatimCast_iff_isTypeText .postgresql spacedColumn
  obtain ⟨-, hexpression, -, hmatched⟩ := hwritten _ hcast
  exact ⟨hcast, hsound, (hexpression hsound).trans (by decide +kernel), hmatched⟩

end Column

end CleanSql
