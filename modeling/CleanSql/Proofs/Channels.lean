import CleanSql.Proofs.RowFilter

/-!
# Value, filter and flag

Three things are read off a column in order: its value, its predicates on rows and its flag. What
each of them is made of is said first (`Column.value_congr`, `Column.predicates_congr`,
`Column.flag?_congr`); a setting that is no part of it does not change it
(`Column.channels_independent`).
-/
namespace CleanSql

inductive Setting where
  | name | dataType | nullable | notes
  | trim | caseNormalization | stripSpecialChars | delimiterSplit | regex | typeCast
  | nullStrategy | nullReplacement | conditional | whereFilter | customExpression
  deriving DecidableEq, Repr

namespace Setting

def all : List Setting :=
  [.name, .dataType, .nullable, .notes, .trim, .caseNormalization, .stripSpecialChars,
    .delimiterSplit, .regex, .typeCast, .nullStrategy, .nullReplacement, .conditional,
    .whereFilter, .customExpression]

theorem mem_all (s : Setting) : s ∈ all := by cases s <;> decide

def ofStages : List Setting :=
  [.trim, .caseNormalization, .stripSpecialChars, .delimiterSplit, .regex, .typeCast]

def Agrees (c c' : Column) : Setting → Prop
  | name => c.name = c'.name
  | dataType => c.dataType = c'.dataType
  | nullable => c.nullable = c'.nullable
  | notes => c.notes = c'.notes
  | trim => c.transformations.trim = c'.transformations.trim
  | caseNormalization => c.transformations.caseNormalization = c'.transformations.caseNormalization
  | stripSpecialChars => c.transformations.stripSpecialChars = c'.transformations.stripSpecialChars
  | delimiterSplit => c.transformations.delimiterSplit = c'.transformations.delimiterSplit
  | regex => c.transformations.regex = c'.transformations.regex
  | typeCast => c.transformations.typeCast = c'.transformations.typeCast
  | nullStrategy => c.transformations.nullStrategy = c'.transformations.nullStrategy
  | nullReplacement => c.transformations.nullReplacement = c'.transformations.nullReplacement
  | conditional => c.transformations.conditional = c'.transformations.conditional
  | whereFilter => c.transformations.whereFilter = c'.transformations.whereFilter
  | customExpression => c.transformations.customExpression = c'.transformations.customExpression

instance (c c' : Column) : DecidablePred (Agrees c c') := by
  intro s
  cases s <;> unfold Agrees <;> infer_instance

end Setting

def DelimiterSplit.stage? (s : DelimiterSplit) : Option Stage :=
  if s.enabled then some (.split s.delimiter s.index) else none

def RegexTransform.stage? (r : RegexTransform) : Option Stage :=
  if r.enabled then some (.regex r.pattern r.replacement) else none

def WhereFilter.predicate? (w : WhereFilter) : Option String :=
  if w.enabled then some (Text.trim w.condition) else none

namespace Transformations

theorem textStages_eq (t : Transformations) : t.textStages =
    (if t.trim then [.trim] else []) ++ t.caseNormalization.stage?.toList ++
      (if t.stripSpecialChars then [.strip] else []) ++ t.delimiterSplit.stage?.toList ++
      t.regex.stage?.toList := by
  have hsplit : t.delimiterSplit.stage?.toList = if t.delimiterSplit.enabled then
      [.split t.delimiterSplit.delimiter t.delimiterSplit.index] else [] := by
    unfold DelimiterSplit.stage?
    split <;> rfl
  have hregex : t.regex.stage?.toList =
      if t.regex.enabled then [.regex t.regex.pattern t.regex.replacement] else [] := by
    unfold RegexTransform.stage?
    split <;> rfl
  rw [hsplit, hregex]
  rfl

theorem textStages_congr {t t' : Transformations} (htrim : t.trim = t'.trim)
    (hcase : t.caseNormalization = t'.caseNormalization)
    (hstrip : t.stripSpecialChars = t'.stripSpecialChars)
    (hsplit : t.delimiterSplit.stage? = t'.delimiterSplit.stage?)
    (hregex : t.regex.stage? = t'.regex.stage?) : t.textStages = t'.textStages := by
  rw [textStages_eq, textStages_eq, htrim, hcase, hstrip, hsplit, hregex]

theorem stages_congr {t t' : Transformations} (htext : t.textStages = t'.textStages)
    (hcast : t.castRequest? = t'.castRequest?) : t.stages = t'.stages := by
  rw [stages, stages, htext, hcast]

end Transformations

namespace Column

/-- Two columns that differ in nothing but some settings. -/
def AgreeBut (settings : List Setting) (c c' : Column) : Prop :=
  ∀ s, s ∉ settings → s.Agrees c c'

instance (settings : List Setting) (c c' : Column) : Decidable (c.AgreeBut settings c') :=
  decidable_of_iff (∀ s ∈ Setting.all, s ∉ settings → s.Agrees c c')
    ⟨fun h s => h s s.mem_all, fun h s _ => h s⟩

section Congruences

variable {p : Profile} {c c' : Column}

theorem startExpression_congr (hname : c.name = c'.name)
    (hcustom : c.transformations.customExpression? = c'.transformations.customExpression?) :
    c.startExpression p = c'.startExpression p := by
  rw [startExpression, startExpression, reference, reference, hname, hcustom]

theorem staged_congr (hstart : c.startExpression p = c'.startExpression p)
    (hstages : c.transformations.stages = c'.transformations.stages) :
    (c.staged p).expression = (c'.staged p).expression := by
  rw [staged_expression, staged_expression, hstart, stageFrames, stageFrames, hstages]

theorem fillFrames_congr
    (hreplace : c.transformations.nullStrategy = .replace ↔
      c'.transformations.nullStrategy = .replace)
    (hpiece : c.transformations.nullStrategy = .replace →
      p.replacementPiece c.replacementType c.transformations.nullReplacement =
        p.replacementPiece c'.replacementType c'.transformations.nullReplacement) :
    c.fillFrames p = c'.fillFrames p := by
  unfold fillFrames
  by_cases h : c.transformations.nullStrategy = .replace
  · rw [if_pos h, if_pos (hreplace.mp h), hpiece h]
  · rw [if_neg h, if_neg (mt hreplace.mpr h)]

/-- A value is what the stages leave, with what is written where it is missing and with cases. -/
theorem value_congr (hstaged : (c.staged p).expression = (c'.staged p).expression)
    (hfill : c.fillFrames p = c'.fillFrames p) (hcases : c.caseFrames = c'.caseFrames) :
    c.value p = c'.value p := by
  have hvalue (b : Column) : b.value p =
      Frame.around p (b.staged p).expression (b.fillFrames p ++ b.caseFrames) := by
    rw [value_eq_around, valueFrames, List.append_assoc, Frame.around_append, staged_expression]
  rw [hvalue c, hvalue c', hstaged, hfill, hcases]

/-- A test for missing values asks for the column or, if there is a custom expression, for what the
stages leave. -/
theorem dropPredicate_congr
    (hcustom : c.transformations.customExpression? = c'.transformations.customExpression?)
    (hplain : c.transformations.customExpression? = none → c.name = c'.name)
    (hstaged : c.transformations.customExpression? ≠ none →
      (c.staged p).expression = (c'.staged p).expression) :
    c.dropPredicate p = c'.dropPredicate p := by
  unfold dropPredicate
  rw [← hcustom]
  by_cases h : c.transformations.customExpression? = none
  · have hname : c.reference p = c'.reference p := by rw [reference, reference, hplain h]
    rw [h, Option.isSome_none, if_neg Bool.false_ne_true, if_neg Bool.false_ne_true, hname]
  · rw [if_pos (Option.isSome_iff_ne_none.mpr h), if_pos (Option.isSome_iff_ne_none.mpr h),
      hstaged h]

theorem predicates_congr
    (hdrop : c.transformations.nullStrategy = .drop ↔ c'.transformations.nullStrategy = .drop)
    (hpredicate : c.transformations.nullStrategy = .drop → c.dropPredicate p = c'.dropPredicate p)
    (hfilter : c.transformations.whereFilter.predicate? =
      c'.transformations.whereFilter.predicate?) :
    c.predicates p = c'.predicates p := by
  have hpredicates (b : Column) : b.predicates p =
      (if b.transformations.nullStrategy = .drop then [b.dropPredicate p] else []) ++
        b.transformations.whereFilter.predicate?.toList := by
    unfold predicates WhereFilter.predicate?
    by_cases h : b.transformations.whereFilter.enabled <;> simp [h]
  rw [hpredicates c, hpredicates c', hfilter]
  by_cases h : c.transformations.nullStrategy = .drop
  · rw [if_pos h, if_pos (hdrop.mp h), hpredicate h]
  · rw [if_neg h, if_neg (mt hdrop.mpr h)]

theorem flag?_congr (hname : c.name = c'.name)
    (hstrategy : c.transformations.nullStrategy = c'.transformations.nullStrategy)
    (hstaged : (c.staged p).expression = (c'.staged p).expression) :
    c.flag? p = c'.flag? p := by
  rw [flag?, flag?, hname, hstrategy, hstaged]

end Congruences

section Agreement

variable {p : Profile} {c c' : Column} {settings : List Setting}

namespace AgreeBut

theorem customExpression? (h : c.AgreeBut settings c') (hs : .customExpression ∉ settings) :
    c.transformations.customExpression? = c'.transformations.customExpression? := by
  have hcustom : c.transformations.customExpression = c'.transformations.customExpression :=
    h .customExpression hs
  rw [Transformations.customExpression?, Transformations.customExpression?, hcustom]

theorem castRequest? (h : c.AgreeBut settings c') (hs : .typeCast ∉ settings) :
    c.transformations.castRequest? = c'.transformations.castRequest? := by
  have hcast : c.transformations.typeCast = c'.transformations.typeCast := h .typeCast hs
  rw [Transformations.castRequest?, Transformations.castRequest?, hcast]

theorem stages (h : c.AgreeBut settings c') (hs : ∀ s ∈ Setting.ofStages, s ∉ settings) :
    c.transformations.stages = c'.transformations.stages := by
  have hagrees : ∀ s ∈ Setting.ofStages, s.Agrees c c' := fun s hmem => h s (hs s hmem)
  have htext : c.transformations.textStages = c'.transformations.textStages :=
    Transformations.textStages_congr (hagrees .trim (by decide))
      (hagrees .caseNormalization (by decide)) (hagrees .stripSpecialChars (by decide))
      (congrArg DelimiterSplit.stage? (hagrees .delimiterSplit (by decide)))
      (congrArg RegexTransform.stage? (hagrees .regex (by decide)))
  exact Transformations.stages_congr htext (h.castRequest? (hs .typeCast (by decide)))

theorem staged (h : c.AgreeBut settings c') (hname : .name ∉ settings)
    (hcustom : .customExpression ∉ settings) (hs : ∀ s ∈ Setting.ofStages, s ∉ settings) :
    (c.staged p).expression = (c'.staged p).expression :=
  staged_congr (startExpression_congr (h .name hname) (h.customExpression? hcustom)) (h.stages hs)

theorem fillFrames (h : c.AgreeBut settings c') (hdata : .dataType ∉ settings)
    (hcast : .typeCast ∉ settings) (htext : .nullReplacement ∉ settings)
    (hreplace : c.transformations.nullStrategy = .replace ↔
      c'.transformations.nullStrategy = .replace) : c.fillFrames p = c'.fillFrames p := by
  have hdata : c.dataType = c'.dataType := h .dataType hdata
  have htext : c.transformations.nullReplacement = c'.transformations.nullReplacement :=
    h .nullReplacement htext
  have htype : c.replacementType = c'.replacementType := by
    rw [replacementType, replacementType, h.castRequest? hcast, hdata]
  exact fillFrames_congr hreplace fun _ => by rw [htype, htext]

theorem caseFrames (h : c.AgreeBut settings c') (hs : .conditional ∉ settings) :
    c.caseFrames = c'.caseFrames := by
  have hcases : c.transformations.conditional = c'.transformations.conditional := h .conditional hs
  rw [Column.caseFrames, Column.caseFrames, otherwisePiece, otherwisePiece, hcases]

theorem value (h : c.AgreeBut [.whereFilter, .nullStrategy] c')
    (hreplace : c.transformations.nullStrategy = .replace ↔
      c'.transformations.nullStrategy = .replace) : c.value p = c'.value p :=
  value_congr (h.staged (by decide) (by decide) (by decide))
    (h.fillFrames (by decide) (by decide) (by decide) hreplace) (h.caseFrames (by decide))

theorem predicates (h : c.AgreeBut [.conditional, .nullStrategy] c')
    (hdrop : c.transformations.nullStrategy = .drop ↔ c'.transformations.nullStrategy = .drop) :
    c.predicates p = c'.predicates p := by
  have hpredicate : c.dropPredicate p = c'.dropPredicate p :=
    dropPredicate_congr (h.customExpression? (by decide)) (fun _ => h .name (by decide))
      fun _ => h.staged (by decide) (by decide) (by decide)
  exact predicates_congr hdrop (fun _ => hpredicate)
    (congrArg WhereFilter.predicate? (h .whereFilter (by decide)))

theorem predicates_plain
    (h : c.AgreeBut [.trim, .caseNormalization, .stripSpecialChars, .delimiterSplit, .regex,
      .typeCast, .nullReplacement, .conditional, .nullStrategy] c')
    (hplain : c.transformations.customExpression? = none)
    (hdrop : c.transformations.nullStrategy = .drop ↔ c'.transformations.nullStrategy = .drop) :
    c.predicates p = c'.predicates p := by
  have hpredicate : c.dropPredicate p = c'.dropPredicate p :=
    dropPredicate_congr (h.customExpression? (by decide)) (fun _ => h .name (by decide))
      fun hcustom => absurd hplain hcustom
  exact predicates_congr hdrop (fun _ => hpredicate)
    (congrArg WhereFilter.predicate? (h .whereFilter (by decide)))

theorem flag? (h : c.AgreeBut [.conditional, .whereFilter] c') :
    c.flag? p = c'.flag? p :=
  flag?_congr (h .name (by decide)) (h .nullStrategy (by decide))
    (h.staged (by decide) (by decide) (by decide))

end AgreeBut

end Agreement

/-- Two columns in order have the same value if they differ in the filter and in the strategy only
and both or neither of them replace missing values. They have the same row filter if they differ in
the cases and in the strategy only and both or neither of them drop missing values; without a custom
expression they may also differ in all that makes up the value. A column has a flag exactly if its
strategy is to flag, and the same flag as one that differs in the cases and in the filter only. -/
theorem channels_independent (d : Dialect) (c c' : Column)
    (h : ¬ ∃ m, c.transformations.Violates m) (h' : ¬ ∃ m, c'.transformations.Violates m) :
    (c.AgreeBut [.whereFilter, .nullStrategy] c' →
      (c.transformations.nullStrategy = .replace ↔ c'.transformations.nullStrategy = .replace) →
      (c.compile d).expression = (c'.compile d).expression) ∧
    (c.AgreeBut [.conditional, .nullStrategy] c' →
      (c.transformations.nullStrategy = .drop ↔ c'.transformations.nullStrategy = .drop) →
      (c.compile d).rowFilter = (c'.compile d).rowFilter) ∧
    (c.AgreeBut [.trim, .caseNormalization, .stripSpecialChars, .delimiterSplit, .regex,
        .typeCast, .nullReplacement, .conditional, .nullStrategy] c' →
      Text.trim c.transformations.customExpression = "" →
      (c.transformations.nullStrategy = .drop ↔ c'.transformations.nullStrategy = .drop) →
      (c.compile d).rowFilter = (c'.compile d).rowFilter) ∧
    ((c.compile d).flag.isSome ↔ c.transformations.nullStrategy = .flag) ∧
    (c.AgreeBut [.conditional, .whereFilter] c' →
      (c.compile d).flag = (c'.compile d).flag) := by
  rw [compile_of_sound d (Transformations.not_violates_iff.mp h),
    compile_of_sound d (Transformations.not_violates_iff.mp h')]
  refine ⟨fun hc hreplace => hc.value hreplace, fun hc hdrop => ?_, fun hc hplain hdrop => ?_, ?_,
    fun hc => hc.flag?⟩
  · exact congrArg conjunction? (hc.predicates hdrop)
  · exact congrArg conjunction? (hc.predicates_plain (if_pos hplain) hdrop)
  · simp only [flag?]
    split_ifs with hflag <;> simp [hflag]

def fullColumn (custom : String) (strategy : NullStrategy) : Column where
  name := "c"
  dataType := .integer
  transformations :=
    { trim := true
      caseNormalization := .title
      nullStrategy := strategy
      nullReplacement := "0"
      typeCast := "float"
      stripSpecialChars := true
      regex := { enabled := true, pattern := "a+", replacement := "b" }
      whereFilter := { enabled := true, condition := "c <> ''" }
      conditional := { enabled := true, cases := [{ condition := "c > 0", result := "x" }] }
      delimiterSplit := { enabled := true, delimiter := "-", index := 1 }
      customExpression := custom }

def withoutFilter (c : Column) : Column := { c with transformations.whereFilter := {} }

def withoutStages (c : Column) : Column :=
  { c with
    transformations :=
      { c.transformations with trim := false, regex := {}, typeCast := "", nullReplacement := "" } }

theorem channels_independent_fullColumn :
    ((fullColumn "f(c)" .drop).compile .mysql).expression =
      ((fullColumn "f(c)" .flag).withoutFilter.compile .mysql).expression ∧
    ((fullColumn "f(c)" .drop).compile .mysql).rowFilter =
      ((fullColumn "f(c)" .drop).withoutCases.compile .mysql).rowFilter ∧
    ((fullColumn "" .drop).compile .mysql).rowFilter =
      ((fullColumn "" .drop).withoutStages.compile .mysql).rowFilter ∧
    (((fullColumn "f(c)" .flag).compile .mysql).flag.isSome ↔
      (fullColumn "f(c)" .flag).transformations.nullStrategy = .flag) ∧
    ((fullColumn "f(c)" .flag).compile .mysql).flag =
      ((fullColumn "f(c)" .flag).withoutFilter.compile .mysql).flag := by
  refine ⟨?_, ?_, ?_, ?_, ?_⟩
  · exact (channels_independent .mysql (fullColumn "f(c)" .drop)
      (fullColumn "f(c)" .flag).withoutFilter (by decide +kernel) (by decide +kernel)).1
        (by decide) (by decide)
  · exact (channels_independent .mysql (fullColumn "f(c)" .drop)
      (fullColumn "f(c)" .drop).withoutCases (by decide +kernel) (by decide +kernel)).2.1
        (by decide) (by decide)
  · exact (channels_independent .mysql (fullColumn "" .drop)
      (fullColumn "" .drop).withoutStages (by decide +kernel) (by decide +kernel)).2.2.1
        (by decide) (by decide) (by decide)
  · exact (channels_independent .mysql (fullColumn "f(c)" .flag)
      (fullColumn "f(c)" .flag).withoutFilter (by decide +kernel) (by decide +kernel)).2.2.2.1
  · exact (channels_independent .mysql (fullColumn "f(c)" .flag)
      (fullColumn "f(c)" .flag).withoutFilter (by decide +kernel) (by decide +kernel)).2.2.2.2
        (by decide)

end Column

end CleanSql
