import CleanSql.Proofs.Channels

/-!
# Settings that are not read

A setting that is off is not read, nor are the blanks around SQL of one's own, nor the type of a
column that is not asked for it. A column is compiled as if all of this were as it is by default
(`Column.compile_active`).
-/
namespace CleanSql

def DelimiterSplit.active (s : DelimiterSplit) : DelimiterSplit := if s.enabled then s else {}

def RegexTransform.active (r : RegexTransform) : RegexTransform := if r.enabled then r else {}

def WhereFilter.active (w : WhereFilter) : WhereFilter :=
  if w.enabled then { w with condition := Text.trim w.condition } else {}

def ConditionalCase.trimmed (one : ConditionalCase) : ConditionalCase :=
  { one with condition := Text.trim one.condition }

def ConditionalTransform.active (c : ConditionalTransform) : ConditionalTransform :=
  if c.enabled then { c with cases := c.cases.map ConditionalCase.trimmed } else {}

/-- The transforms with what is not read of them as it is by default. -/
def Transformations.active (t : Transformations) : Transformations :=
  { t with
    delimiterSplit := t.delimiterSplit.active
    regex := t.regex.active
    conditional := t.conditional.active
    whereFilter := t.whereFilter.active
    nullReplacement := if t.nullStrategy = .replace then t.nullReplacement else ""
    typeCast := Text.trim t.typeCast
    customExpression := Text.trim t.customExpression }

namespace Column

/-- The type is read where the stages are those of the column itself, and for the replacement of
missing values unless a cast says of what type it is. -/
def ReadsDataType (c : Column) : Prop :=
  Text.trim c.transformations.customExpression = "" ∨
    c.transformations.nullStrategy = .replace ∧
      ∀ type ∈ DataType.all, c.transformations.castRequest? ≠ some (.engine type)

instance : DecidablePred ReadsDataType := fun _ => inferInstanceAs (Decidable (_ ∨ _ ∧ _))

/-- The column with what is not read of it as it is by default. -/
def active (c : Column) : Column where
  name := c.name
  dataType := if c.ReadsDataType then c.dataType else .string
  transformations := c.transformations.active

end Column

section Settings

theorem DelimiterSplit.malformations_active (s : DelimiterSplit) :
    s.active.malformations = s.malformations := by
  by_cases h : s.enabled
  · rw [active, if_pos h]
  · rw [active, if_neg h, malformations, malformations, if_neg h]
    rfl

theorem DelimiterSplit.stage?_active (s : DelimiterSplit) : s.active.stage? = s.stage? := by
  by_cases h : s.enabled
  · rw [active, if_pos h]
  · rw [active, if_neg h, stage?, stage?, if_neg h]
    rfl

theorem RegexTransform.malformations_active (r : RegexTransform) :
    r.active.malformations = r.malformations := by
  by_cases h : r.enabled
  · rw [active, if_pos h]
  · simp [active, malformations, h]

theorem RegexTransform.stage?_active (r : RegexTransform) : r.active.stage? = r.stage? := by
  by_cases h : r.enabled
  · rw [active, if_pos h]
  · simp [active, stage?, h]

theorem WhereFilter.malformations_active (w : WhereFilter) :
    w.active.malformations = w.malformations := by
  by_cases h : w.enabled
  · simp [active, malformations, h, Text.isBlankText_trim]
  · simp [active, malformations, h]

theorem WhereFilter.predicate?_active (w : WhereFilter) : w.active.predicate? = w.predicate? := by
  by_cases h : w.enabled
  · simp [active, predicate?, h, Text.trim_trim]
  · simp [active, predicate?, h]

/-- A condition is empty with the blanks around it or without them. -/
theorem ConditionalTransform.malformations_active (c : ConditionalTransform) :
    c.active.malformations = c.malformations := by
  by_cases h : c.enabled
  · have hplaces (x : ConditionalCase × Nat) :
        (if Text.isBlankText x.1.trimmed.condition then
          some (Malformation.emptyCondition x.2) else none) =
        if Text.isBlankText x.1.condition then some (.emptyCondition x.2) else none := by
      rw [ConditionalCase.trimmed, Text.isBlankText_trim]
    simp [active, malformations, h, List.zipIdx_map, List.filterMap_map, hplaces]
  · simp [active, malformations, h]

theorem CastReading.of_trim (text : String) : of (Text.trim text) = of text := by
  rw [of, Text.trim_trim, of]

end Settings

namespace Transformations

variable (t : Transformations)

theorem castReading_active : CastReading.of t.active.typeCast = CastReading.of t.typeCast :=
  CastReading.of_trim t.typeCast

theorem malformations_active : t.active.malformations = t.malformations := by
  have hsplit := t.delimiterSplit.malformations_active
  have hregex := t.regex.malformations_active
  have hcases := t.conditional.malformations_active
  have hfilter := t.whereFilter.malformations_active
  rw [malformations, malformations, castReading_active, ← hsplit, ← hregex, ← hcases, ← hfilter]
  rfl

theorem customExpression?_active : t.active.customExpression? = t.customExpression? := by
  have htrim : Text.trim t.active.customExpression = Text.trim t.customExpression :=
    Text.trim_trim t.customExpression
  rw [customExpression?, htrim, customExpression?]

theorem castRequest?_active : t.active.castRequest? = t.castRequest? := by
  rw [castRequest?, castReading_active, castRequest?]

theorem textStages_active : t.active.textStages = t.textStages :=
  textStages_congr rfl rfl rfl t.delimiterSplit.stage?_active t.regex.stage?_active

theorem stages_active : t.active.stages = t.stages :=
  stages_congr t.textStages_active t.castRequest?_active

end Transformations

namespace Column

section Unread

variable (p : Profile) (c : Column)

@[simp] theorem active_name : c.active.name = c.name := by
  unfold active
  rfl

@[simp] theorem active_transformations :
    c.active.transformations = c.transformations.active := by
  unfold active
  rfl

theorem active_dataType {c : Column} (h : c.ReadsDataType) : c.active.dataType = c.dataType := by
  unfold active
  dsimp only
  rw [if_pos h]

theorem active_nullStrategy :
    c.active.transformations.nullStrategy = c.transformations.nullStrategy := by
  rw [active_transformations]
  rfl

theorem startExpression_active : c.active.startExpression p = c.startExpression p := by
  refine startExpression_congr c.active_name ?_
  rw [active_transformations, Transformations.customExpression?_active]

/-- Where the stages are not those of the column itself, nothing is said of its type. -/
theorem textNotice_active : c.active.textNotice = c.textNotice := by
  unfold textNotice
  rw [active_name, active_transformations, Transformations.customExpression?_active,
    Transformations.textStages_active]
  by_cases hblank : Text.trim c.transformations.customExpression = ""
  · rw [active_dataType (.inl hblank)]
  · have hsome : c.transformations.customExpression?.isSome := by
      rw [Transformations.customExpression?, if_neg hblank]
      rfl
    simp [hsome]

/-- A replacement is of the type of the cast, or else the type of the column is read. -/
theorem replacementType_active (h : c.transformations.nullStrategy = .replace) :
    c.active.replacementType = c.replacementType := by
  unfold replacementType
  rw [active_transformations, Transformations.castRequest?_active]
  by_cases hengine : ∃ type, c.transformations.castRequest? = some (.engine type)
  · obtain ⟨type, htype⟩ := hengine
    rw [htype]
  · have hreads : c.ReadsDataType :=
      .inr ⟨h, fun type _ htype => hengine ⟨type, htype⟩⟩
    rw [active_dataType hreads]

theorem nullReplacement_active (h : c.transformations.nullStrategy = .replace) :
    c.active.transformations.nullReplacement = c.transformations.nullReplacement := by
  rw [active_transformations]
  exact if_pos h

theorem staged_active : (c.active.staged p).expression = (c.staged p).expression := by
  refine staged_congr (c.startExpression_active p) ?_
  rw [active_transformations, Transformations.stages_active]

theorem fillFrames_active : c.active.fillFrames p = c.fillFrames p := by
  refine fillFrames_congr (by rw [active_nullStrategy]) fun h => ?_
  rw [active_nullStrategy] at h
  rw [c.replacementType_active h, c.nullReplacement_active h]

theorem caseFrames_active : c.active.caseFrames = c.caseFrames := by
  have hcase (one : ConditionalCase) :
      Profile.caseFrame one.trimmed = Profile.caseFrame one := by
    rw [Profile.caseFrame, ConditionalCase.trimmed, Text.trim_trim, Profile.caseFrame]
  have hactive : c.transformations.active.conditional = c.transformations.conditional.active := rfl
  unfold caseFrames otherwisePiece
  rw [active_transformations, hactive]
  by_cases h : c.transformations.conditional.enabled
  · simp [ConditionalTransform.active, h, Profile.casesFrame, List.flatMap_map, hcase]
  · simp [ConditionalTransform.active, h]

theorem value_active : c.active.value p = c.value p :=
  value_congr (c.staged_active p) (c.fillFrames_active p) c.caseFrames_active

theorem predicates_active : c.active.predicates p = c.predicates p := by
  have hpredicate : c.active.dropPredicate p = c.dropPredicate p := by
    refine dropPredicate_congr ?_ (fun _ => c.active_name) fun _ => c.staged_active p
    rw [active_transformations, Transformations.customExpression?_active]
  refine predicates_congr (by rw [active_nullStrategy]) (fun _ => hpredicate) ?_
  rw [active_transformations]
  exact c.transformations.whereFilter.predicate?_active

theorem flag?_active : c.active.flag? p = c.flag? p :=
  flag?_congr c.active_name c.active_nullStrategy (c.staged_active p)

theorem flagNotice_active : c.active.flagNotice = c.flagNotice := by
  rw [flagNotice, flagNotice, active_nullStrategy, active_name]

theorem diagnostics_active : (c.active.filled p).diagnostics = (c.filled p).diagnostics := by
  have hstages : c.active.transformations.stages = c.transformations.stages := by
    rw [active_transformations, Transformations.stages_active]
  rw [filled_diagnostics, filled_diagnostics, staged_diagnostics, staged_diagnostics, hstages,
    active_nullStrategy, active_name, c.textNotice_active]
  by_cases h : c.transformations.nullStrategy = .replace
  · rw [if_pos h, if_pos h, replacement, replacement, c.replacementType_active h,
      c.nullReplacement_active h]
  · rw [if_neg h, if_neg h]

end Unread

/-- A column is compiled as if all that is not read of it were as it is by default. -/
theorem compile_active (d : Dialect) (c : Column) : c.active.compile d = c.compile d := by
  have hmalformed : c.active.transformations.malformations = c.transformations.malformations := by
    rw [active_transformations, Transformations.malformations_active]
  by_cases h : c.transformations.malformations = []
  · rw [compile_of_sound d (hmalformed.trans h), compile_of_sound d h, c.value_active,
      c.predicates_active, c.flag?_active, c.diagnostics_active, c.flagNotice_active, active_name]
  · have hactive : c.active.transformations.malformations ≠ [] := by rwa [hmalformed]
    rw [compile_of_malformed d hactive, compile_of_malformed d h, degraded, degraded, hmalformed,
      reference, reference, active_name]

section CustomExpression

variable {p : Profile} {c c' : Column}

/-- A custom expression takes the place of the name, and all stages follow it. -/
theorem AgreeBut.staged_custom (h : c.AgreeBut [.name] c')
    (hcustom : c.transformations.customExpression? ≠ none) :
    (c.staged p).expression = (c'.staged p).expression := by
  have hsame := h.customExpression? (by decide)
  obtain ⟨e, he⟩ := Option.ne_none_iff_exists'.mp hcustom
  have hstart : c.startExpression p = c'.startExpression p := by
    rw [startExpression, startExpression, ← hsame, he]
    rfl
  exact staged_congr hstart (h.stages (by decide))

theorem AgreeBut.value_custom (h : c.AgreeBut [.name] c')
    (hcustom : c.transformations.customExpression? ≠ none) : c.value p = c'.value p := by
  have hstrategy : c.transformations.nullStrategy = c'.transformations.nullStrategy :=
    h .nullStrategy (by decide)
  exact value_congr (h.staged_custom hcustom)
    (h.fillFrames (by decide) (by decide) (by decide) (by rw [hstrategy]))
    (h.caseFrames (by decide))

theorem AgreeBut.predicates_custom (h : c.AgreeBut [.name] c')
    (hcustom : c.transformations.customExpression? ≠ none) :
    c.predicates p = c'.predicates p := by
  have hstrategy : c.transformations.nullStrategy = c'.transformations.nullStrategy :=
    h .nullStrategy (by decide)
  have hpredicate : c.dropPredicate p = c'.dropPredicate p :=
    dropPredicate_congr (h.customExpression? (by decide)) (fun hplain => absurd hplain hcustom)
      fun _ => h.staged_custom hcustom
  exact predicates_congr (by rw [hstrategy]) (fun _ => hpredicate)
    (congrArg WhereFilter.predicate? (h .whereFilter (by decide)))

theorem AgreeBut.flag?_custom (h : c.AgreeBut [.name] c')
    (hcustom : c.transformations.customExpression? ≠ none) :
    (c.flag? p).map (·.expression) = (c'.flag? p).map (·.expression) := by
  have hstrategy : c.transformations.nullStrategy = c'.transformations.nullStrategy :=
    h .nullStrategy (by decide)
  unfold Column.flag?
  rw [← hstrategy, h.staged_custom hcustom]
  by_cases hflag : c.transformations.nullStrategy = .flag
  · rw [if_pos hflag, if_pos hflag]
    rfl
  · rw [if_neg hflag, if_neg hflag]

end CustomExpression

/-- Two columns that agree in all that is read of them are compiled to the same. Two columns in
order that differ in their names only and have a custom expression have the same value, the same
row filter and, in their flags, the same expression. -/
theorem compile_eq_of_active_eq (d : Dialect) (c c' : Column) :
    (c.active = c'.active → c.compile d = c'.compile d) ∧
    ((¬ ∃ m, c.transformations.Violates m) → (¬ ∃ m, c'.transformations.Violates m) →
      c.AgreeBut [.name] c' → Text.trim c.transformations.customExpression ≠ "" →
      (c.compile d).expression = (c'.compile d).expression ∧
      (c.compile d).rowFilter = (c'.compile d).rowFilter ∧
      (c.compile d).flag.map (·.expression) = (c'.compile d).flag.map (·.expression)) := by
  constructor
  · intro h
    rw [← c.compile_active d, ← c'.compile_active d, h]
  · intro hsound hsound' h hblank
    have hcustom : c.transformations.customExpression? ≠ none := by
      rw [Transformations.customExpression?, if_neg hblank]
      exact Option.some_ne_none _
    rw [compile_of_sound d (Transformations.not_violates_iff.mp hsound),
      compile_of_sound d (Transformations.not_violates_iff.mp hsound')]
    exact ⟨h.value_custom hcustom, congrArg conjunction? (h.predicates_custom hcustom),
      h.flag?_custom hcustom⟩

/-- The column with something in all of its settings that are not read. -/
def cluttered (c : Column) : Column :=
  { c with
    dataType := .json
    nullable := false
    notes := "not read"
    transformations :=
      { c.transformations with
        nullReplacement := "0"
        typeCast := "\t"
        regex := { pattern := "(", replacement := "b" }
        whereFilter := { condition := "c >" }
        conditional := { cases := [{}], otherwise := "x" }
        delimiterSplit := { delimiter := "", index := 7 }
        customExpression := " " ++ c.transformations.customExpression ++ "\n" } }

def customColumn (name : String) : Column where
  name := name
  transformations := { trim := true, nullStrategy := .flag, customExpression := "f(a)" }

theorem compile_eq_of_active_eq_customColumn :
    (customColumn "c").compile .snowflake = (customColumn "c").cluttered.compile .snowflake ∧
    (((customColumn "c").compile .snowflake).expression =
        ((customColumn "d").compile .snowflake).expression ∧
      ((customColumn "c").compile .snowflake).rowFilter =
        ((customColumn "d").compile .snowflake).rowFilter ∧
      ((customColumn "c").compile .snowflake).flag.map (·.expression) =
        ((customColumn "d").compile .snowflake).flag.map (·.expression)) := by
  constructor
  · exact (compile_eq_of_active_eq .snowflake (customColumn "c")
      (customColumn "c").cluttered).1 (by decide)
  · exact (compile_eq_of_active_eq .snowflake (customColumn "c") (customColumn "d")).2
      (by decide) (by decide) (by decide) (by decide)

end Column

end CleanSql
