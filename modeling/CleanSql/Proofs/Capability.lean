import CleanSql.Dialect.Profile
import CleanSql.Proofs.Channels
import CleanSql.Proofs.NumeralText

/-!
# What a dialect falls short of

The capability matrix says what a dialect cannot do, the diagnostics of a column say what was not
done as declared, and the SQL leaves it out. All three agree: there is one diagnostic for each
thing that a column asks for in vain (`Column.filter_isUnsupported_compile`,
`Column.isSome_caveat?_iff`), and the SQL is that of the column without the stages that the matrix
denies (`Column.staged_within`).
-/
namespace CleanSql

/-- The requests of a column that a dialect may not meet. -/
inductive Shortfall where
  | title | strip | split | regex | cast | replacement
  deriving DecidableEq, Repr

namespace Shortfall

def all : List Shortfall := [.title, .strip, .split, .regex, .cast, .replacement]

end Shortfall

namespace Column

/-- The column asks for something that cannot be done. A replacement falls short if it is no literal
of the type that it is for. -/
def FallsShort (k : Capabilities) (c : Column) : Shortfall → Prop
  | .title => c.transformations.caseNormalization = .title ∧ ¬ k.nativeTitleCase
  | .strip => c.transformations.stripSpecialChars ∧ ¬ k.regexReplace
  | .split => c.transformations.delimiterSplit.enabled ∧ ¬ k.split
  | .regex => c.transformations.regex.enabled ∧ ¬ k.regexReplace
  | .cast => ∃ type ∈ k.unsupportedCasts, c.transformations.castRequest? = some (.engine type)
  | .replacement => c.transformations.nullStrategy = .replace ∧
      let value := Text.trim c.transformations.nullReplacement
      (c.replacementType.isNumeric ∧ ¬ IsNumeralText value.toList ∨
        c.replacementType = .boolean ∧ value.toLower ≠ "true" ∧ value.toLower ≠ "false")

instance (k : Capabilities) (c : Column) : DecidablePred (c.FallsShort k) := by
  intro s
  cases s <;> unfold FallsShort <;> infer_instance

/-- The column without the stages that the capabilities deny. -/
def within (k : Capabilities) (c : Column) : Column :=
  { c with
    transformations :=
      { c.transformations with
        stripSpecialChars := c.transformations.stripSpecialChars && k.regexReplace
        delimiterSplit :=
          { c.transformations.delimiterSplit with
            enabled := c.transformations.delimiterSplit.enabled && k.split }
        regex :=
          { c.transformations.regex with
            enabled := c.transformations.regex.enabled && k.regexReplace } } }

end Column

namespace Profile

variable (p : Profile)

theorem not_regexReplace_iff : ¬ p.capabilities.regexReplace ↔ p.regex = .unsupported := by
  simp [capabilities]

theorem not_split_iff : ¬ p.capabilities.split ↔ p.split = .unsupported := by
  cases h : p.split <;> simp [Capabilities.split, capabilities, SplitForm.base?, h]

theorem mem_unsupportedCasts_iff {type : DataType} :
    type ∈ p.capabilities.unsupportedCasts ↔ p.castTarget type = .unsupported := by
  simp [capabilities, DataType.mem_all]

end Profile

namespace Stage

variable {p : Profile}

theorem isSome_caveat?_title :
    (title.caveat? p).isSome ↔ ¬ p.capabilities.nativeTitleCase := by
  cases h : p.titleCase <;> simp [caveat?, Profile.capabilities, h]

theorem isSome_caveat?_strip : (strip.caveat? p).isSome ↔ ¬ p.capabilities.regexReplace := by
  rw [Profile.not_regexReplace_iff, caveat?]
  split_ifs with h <;> simp [h]

theorem isSome_caveat?_regex (pattern replacement : String) :
    ((regex pattern replacement).caveat? p).isSome ↔ ¬ p.capabilities.regexReplace := by
  rw [Profile.not_regexReplace_iff, caveat?]
  split_ifs with h <;> simp [h]

/-- Every index but the last can be counted from one. -/
theorem isSome_caveat?_split (delimiter : String) {index : UInt64}
    (h : index.toNat + 1 < UInt64.size) :
    ((split delimiter index).caveat? p).isSome ↔ ¬ p.capabilities.split := by
  rw [Profile.not_split_iff]
  cases hsplit : p.split <;>
    simp [caveat?, hsplit, SplitForm.base?, IndexBase.native?, h]

theorem isSome_caveat?_cast (type : DataType) :
    ((cast (.engine type)).caveat? p).isSome ↔ type ∈ p.capabilities.unsupportedCasts := by
  rw [Profile.mem_unsupportedCasts_iff, caveat?]
  split_ifs with h <;> simp [h]

end Stage

/-- A replacement is remarked upon if it is no number or no truth value and should be one. -/
theorem Profile.isSome_caveat?_writeTypedLiteral (p : Profile) (type : DataType) (text : String) :
    (p.writeTypedLiteral type text).caveat?.isSome ↔
      type.isNumeric ∧ ¬ IsNumeralText (Text.trim text).toList ∨
        type = .boolean ∧ (Text.trim text).toLower ≠ "true" ∧
          (Text.trim text).toLower ≠ "false" := by
  rw [← isNumeral_iff]
  unfold writeTypedLiteral
  dsimp only
  by_cases hnumeric : type.isNumeric
  · have hboolean : type ≠ .boolean := by
      rintro rfl
      cases hnumeric
    rw [if_pos hnumeric]
    by_cases hnumeral : isNumeral (Text.trim text) <;>
      simp [hnumeral, hnumeric, hboolean, Fragment.caveat?]
  · rw [if_neg hnumeric]
    by_cases htemporal : type.isTemporal
    · have hboolean : type ≠ .boolean := by
        rintro rfl
        cases htemporal
      rw [if_pos htemporal]
      split <;> simp [hnumeric, hboolean, Fragment.caveat?]
    · rw [if_neg htemporal]
      by_cases hboolean : type = .boolean
      · rw [if_pos hboolean]
        split <;> simp_all [Fragment.caveat?]
      · simp [hnumeric, hboolean, Fragment.caveat?]

def Diagnostic.isUnsupported (e : Diagnostic) : Bool := e.kind = .unsupportedFeature

theorem Stage.filter_isUnsupported_notices (p : Profile) (column : String) (s : Stage) :
    (s.notices p column).filter Diagnostic.isUnsupported =
      ((s.caveat? p).map fun v => Diagnostic.unsupported column v.message).toList := by
  have hnotice : (Progress.castNotice column s).filter Diagnostic.isUnsupported = [] := by
    unfold Progress.castNotice
    split <;> rfl
  rw [Stage.notices, List.filter_append, hnotice, List.nil_append]
  cases s.caveat? p <;> rfl

theorem Stage.filter_isUnsupported_flatMap (p : Profile) (column : String) (stages : List Stage) :
    (stages.flatMap (Stage.notices p column)).filter Diagnostic.isUnsupported =
      (stages.filterMap (Stage.caveat? p)).map fun v => .unsupported column v.message := by
  induction stages with
  | nil => rfl
  | cons s stages ih =>
    rw [List.flatMap_cons, List.filter_append, filter_isUnsupported_notices, ih,
      List.filterMap_cons]
    cases s.caveat? p <;> rfl

namespace Column

def caveat? (p : Profile) (c : Column) : Shortfall → Option Caveat
  | .title =>
    if c.transformations.caseNormalization = .title then Stage.title.caveat? p else none
  | .strip => if c.transformations.stripSpecialChars then Stage.strip.caveat? p else none
  | .split => c.transformations.delimiterSplit.stage?.bind (Stage.caveat? p)
  | .regex => c.transformations.regex.stage?.bind (Stage.caveat? p)
  | .cast => c.transformations.castRequest?.bind fun request => (Stage.cast request).caveat? p
  | .replacement =>
    if c.transformations.nullStrategy = .replace then (c.replacement p).caveat? else none

variable {c : Column}

/-- The matrix and the builders agree, for a column in order. -/
theorem isSome_caveat?_iff (p : Profile) (h : ¬ ∃ m, c.transformations.Violates m) (s : Shortfall) :
    (c.caveat? p s).isSome ↔ c.FallsShort p.capabilities s := by
  cases s with
  | title =>
    by_cases htitle : c.transformations.caseNormalization = .title <;>
      simp [caveat?, FallsShort, htitle, Stage.isSome_caveat?_title]
  | strip =>
    by_cases hstrip : c.transformations.stripSpecialChars <;>
      simp [caveat?, FallsShort, hstrip, Stage.isSome_caveat?_strip]
  | split =>
    by_cases hsplit : c.transformations.delimiterSplit.enabled
    · have hindex : c.transformations.delimiterSplit.index.toNat + 1 < UInt64.size := by
        have hlt := c.transformations.delimiterSplit.index.toNat_lt_size
        have hne : c.transformations.delimiterSplit.index.toNat ≠ UInt64.size - 1 :=
          fun heq => h ⟨_, .indexOutOfRange hsplit heq⟩
        omega
      simp [caveat?, FallsShort, DelimiterSplit.stage?, hsplit,
        Stage.isSome_caveat?_split _ hindex]
    · simp [caveat?, FallsShort, DelimiterSplit.stage?, hsplit]
  | regex =>
    by_cases hregex : c.transformations.regex.enabled <;>
      simp [caveat?, FallsShort, RegexTransform.stage?, hregex, Stage.isSome_caveat?_regex]
  | cast =>
    cases hrequest : c.transformations.castRequest? with
    | none => simp [caveat?, FallsShort, hrequest]
    | some request =>
      cases request with
      | verbatim name => simp [caveat?, FallsShort, hrequest, Stage.caveat?]
      | engine type => simp [caveat?, FallsShort, hrequest, Stage.isSome_caveat?_cast]
  | replacement =>
    by_cases hreplace : c.transformations.nullStrategy = .replace
    · have hliteral := p.isSome_caveat?_writeTypedLiteral c.replacementType
        c.transformations.nullReplacement
      simp only [caveat?, FallsShort, hreplace, if_true, true_and, replacement, hliteral]
    · simp [caveat?, FallsShort, hreplace]

theorem filterMap_caveat?_stages (p : Profile) (c : Column) :
    c.transformations.stages.filterMap (Stage.caveat? p) =
      [Shortfall.title, .strip, .split, .regex, .cast].filterMap (c.caveat? p) := by
  have hoption (o : Option Stage) :
      o.toList.filterMap (Stage.caveat? p) = (o.bind (Stage.caveat? p)).toList := by
    cases o <;> simp [List.filterMap_eq_flatMap_toList]
  have htrim : (if c.transformations.trim then [Stage.trim] else []).filterMap
      (Stage.caveat? p) = [] := by
    split_ifs <;> rfl
  have htitle : c.transformations.caseNormalization.stage?.bind (Stage.caveat? p) =
      c.caveat? p .title := by
    unfold caveat?
    cases c.transformations.caseNormalization <;> rfl
  have hstrip : (if c.transformations.stripSpecialChars then [Stage.strip] else []).filterMap
      (Stage.caveat? p) = (c.caveat? p .strip).toList := by
    unfold caveat?
    split_ifs <;> simp [List.filterMap_eq_flatMap_toList]
  have hcast : (c.transformations.castRequest?.map Stage.cast).bind (Stage.caveat? p) =
      c.caveat? p .cast := by
    unfold caveat?
    cases c.transformations.castRequest? <;> rfl
  rw [Transformations.stages, Transformations.textStages_eq]
  simp only [List.filterMap_append, hoption, htrim, htitle, hstrip, hcast]
  simp [List.filterMap_eq_flatMap_toList, caveat?]

theorem filter_isUnsupported_compile (d : Dialect) (h : c.transformations.malformations = []) :
    (c.compile d).diagnostics.filter Diagnostic.isUnsupported =
      (Shortfall.all.filterMap (c.caveat? d.profile)).map fun v =>
        .unsupported c.name v.message := by
  have htext : c.textNotice.filter Diagnostic.isUnsupported = [] := by
    unfold textNotice
    dsimp only
    split_ifs <;> rfl
  have hflag : c.flagNotice.filter Diagnostic.isUnsupported = [] := by
    unfold flagNotice
    split_ifs <;> rfl
  have hfill : (if c.transformations.nullStrategy = .replace then
      ((c.replacement d.profile).caveat?.map fun v =>
        Diagnostic.unsupported c.name v.message).toList
      else []).filter Diagnostic.isUnsupported =
      (c.caveat? d.profile .replacement).toList.map fun v => .unsupported c.name v.message := by
    by_cases hreplace : c.transformations.nullStrategy = .replace
    · have hcaveat : c.caveat? d.profile .replacement = (c.replacement d.profile).caveat? :=
        if_pos hreplace
      rw [if_pos hreplace, hcaveat]
      cases (c.replacement d.profile).caveat? <;> rfl
    · have hcaveat : c.caveat? d.profile .replacement = none := if_neg hreplace
      rw [if_neg hreplace, hcaveat]
      rfl
  have hall : Shortfall.all.filterMap (c.caveat? d.profile) =
      [Shortfall.title, .strip, .split, .regex, .cast].filterMap (c.caveat? d.profile) ++
        (c.caveat? d.profile .replacement).toList := by
    simp [Shortfall.all, List.filterMap_eq_flatMap_toList]
  rw [compile_of_sound d h, filled_diagnostics, staged_diagnostics, hall, List.map_append,
    List.filter_append, List.filter_append, List.filter_append, htext, hflag, hfill,
    Stage.filter_isUnsupported_flatMap, filterMap_caveat?_stages, List.nil_append, List.append_nil]

end Column

/-- A frame that leaves its expression as it is can be left out. -/
theorem Frame.around_filter {p : Profile} (e : String) (fs : List Frame) :
    around p e (fs.filter (· ≠ [.hole])) = around p e fs := by
  induction fs generalizing e with
  | nil => rfl
  | cons f fs ih =>
    by_cases h : f = [.hole]
    · have hfill : f.fill p e = e := by
        rw [h]
        simp [Piece.write]
      rw [List.filter_cons_of_neg (by simpa using h), ih, around_cons, hfill]
    · rw [List.filter_cons_of_pos (by simpa using h), around_cons, around_cons, ih]

namespace Column

/-- A stage that is denied has the frame that leaves its expression as it is. -/
theorem filter_stageFrames_within (p : Profile) (c : Column) :
    ((c.within p.capabilities).stageFrames p).filter (· ≠ [.hole]) =
      (c.stageFrames p).filter (· ≠ [.hole]) := by
  have hregex (pattern replacement : String) (h : ¬ p.capabilities.regexReplace) :
      p.regexFrame pattern replacement = [.hole] := by
    rw [Profile.regexFrame, p.not_regexReplace_iff.mp h]
  have hsplit (delimiter : String) (index : UInt64) (h : ¬ p.capabilities.split) :
      p.splitFrame delimiter index = [.hole] := by
    simp [Profile.splitFrame, p.not_split_iff.mp h, SplitForm.base?]
  -- Each of three stages is denied or stays as it was.
  have hdenied {on able : Bool} {s : Stage} (h : ¬ able → s.frame p = [.hole]) :
      ((if on && able then [s] else []).map (Stage.frame p)).filter (· ≠ [.hole]) =
        ((if on then [s] else []).map (Stage.frame p)).filter (· ≠ [.hole]) := by
    cases on <;> cases able <;> simp_all
  simp only [stageFrames, Transformations.stages, Transformations.textStages, List.map_append,
    List.filter_append]
  refine congrArg₂ _ (congrArg₂ _ (congrArg₂ _ (congrArg₂ _ ?_ ?_) ?_) ?_) ?_
  · rfl
  · exact hdenied (hregex _ _)
  · exact hdenied (hsplit _ _)
  · exact hdenied (hregex _ _)
  · rfl

section Within

variable (p : Profile) (c : Column)

theorem agreeBut_within :
    (c.within p.capabilities).AgreeBut [.stripSpecialChars, .delimiterSplit, .regex] c := by
  intro s hs
  cases s with
  | stripSpecialChars | delimiterSplit | regex => exact absurd hs (by decide)
  | _ => rfl

theorem staged_within :
    ((c.within p.capabilities).staged p).expression = (c.staged p).expression := by
  have hagree := c.agreeBut_within p
  have hstart : (c.within p.capabilities).startExpression p = c.startExpression p :=
    startExpression_congr (hagree .name (by decide)) (hagree.customExpression? (by decide))
  rw [staged_expression, staged_expression, hstart, ← Frame.around_filter,
    filter_stageFrames_within, Frame.around_filter]

theorem value_within : (c.within p.capabilities).value p = c.value p := by
  have hagree := c.agreeBut_within p
  exact value_congr (c.staged_within p)
    (hagree.fillFrames (by decide) (by decide) (by decide) Iff.rfl) (hagree.caseFrames (by decide))

theorem predicates_within : (c.within p.capabilities).predicates p = c.predicates p := by
  have hagree := c.agreeBut_within p
  have hpredicate : (c.within p.capabilities).dropPredicate p = c.dropPredicate p :=
    dropPredicate_congr (hagree.customExpression? (by decide))
      (fun _ => hagree .name (by decide)) fun _ => c.staged_within p
  exact predicates_congr Iff.rfl (fun _ => hpredicate)
    (congrArg WhereFilter.predicate? (hagree .whereFilter (by decide)))

theorem flag?_within : (c.within p.capabilities).flag? p = c.flag? p := by
  have hagree := c.agreeBut_within p
  exact flag?_congr (hagree .name (by decide)) (hagree .nullStrategy (by decide))
    (c.staged_within p)

end Within

theorem violates_of_within {k : Capabilities} {c : Column} {m : Malformation}
    (h : (c.within k).transformations.Violates m) : c.transformations.Violates m := by
  have hon {on able : Bool} (h : on && able) : on := (Bool.and_eq_true_iff.mp h).1
  cases h with
  | emptyDelimiter henabled hempty => exact .emptyDelimiter (hon henabled) hempty
  | indexOutOfRange henabled hindex => exact .indexOutOfRange (hon henabled) hindex
  | emptyPattern henabled hempty => exact .emptyPattern (hon henabled) hempty
  | noCases henabled hempty => exact .noCases henabled hempty
  | emptyCondition henabled hplace hblank => exact .emptyCondition henabled hplace hblank
  | emptyFilter henabled hblank => exact .emptyFilter henabled hblank
  | unreadableType hne hname htype => exact .unreadableType hne hname htype

/-- A column in order has one diagnostic of an unsupported feature for each thing that it asks for
and the capabilities of the dialect do not have, or that is no literal of its type. Its value, its
row filter and its flag are those of the column without the stages that they deny. -/
theorem compile_within (d : Dialect) (c : Column) (h : ¬ ∃ m, c.transformations.Violates m) :
    (c.compile d).diagnostics.countP (·.kind = .unsupportedFeature) =
      Shortfall.all.countP (c.FallsShort d.profile.capabilities ·) ∧
    (c.compile d).expression = ((c.within d.profile.capabilities).compile d).expression ∧
    (c.compile d).rowFilter = ((c.within d.profile.capabilities).compile d).rowFilter ∧
    (c.compile d).flag = ((c.within d.profile.capabilities).compile d).flag := by
  have hwithin : ¬ ∃ m, (c.within d.profile.capabilities).transformations.Violates m :=
    fun ⟨m, hm⟩ => h ⟨m, violates_of_within hm⟩
  have hsound := Transformations.not_violates_iff.mp h
  refine ⟨?_, ?_⟩
  · have hcount : (c.compile d).diagnostics.countP Diagnostic.isUnsupported =
        Shortfall.all.countP fun s => (c.caveat? d.profile s).isSome := by
      rw [List.countP_eq_length_filter, filter_isUnsupported_compile d hsound, List.length_map,
        List.length_filterMap_eq_countP]
    refine hcount.trans (List.countP_congr fun s _ => ?_)
    rw [isSome_caveat?_iff d.profile h, decide_eq_true_eq]
  · rw [compile_of_sound d hsound,
      compile_of_sound d (Transformations.not_violates_iff.mp hwithin)]
    exact ⟨(c.value_within d.profile).symm,
      congrArg conjunction? (c.predicates_within d.profile).symm, (c.flag?_within d.profile).symm⟩

/-- A column that asks for more than some dialects can do. -/
def demandingColumn : Column where
  name := "c"
  transformations :=
    { caseNormalization := .title
      nullStrategy := .replace
      nullReplacement := "none"
      typeCast := "int"
      stripSpecialChars := true
      regex := { enabled := true, pattern := "a+" }
      delimiterSplit := { enabled := true, index := 1 } }

theorem compile_within_demandingColumn :
    (demandingColumn.compile .tsql).diagnostics.countP (·.kind = .unsupportedFeature) = 5 ∧
    (demandingColumn.compile .tsql).expression =
      ((demandingColumn.within Profile.tsql.capabilities).compile .tsql).expression ∧
    (demandingColumn.compile .tsql).rowFilter =
      ((demandingColumn.within Profile.tsql.capabilities).compile .tsql).rowFilter ∧
    (demandingColumn.compile .tsql).flag =
      ((demandingColumn.within Profile.tsql.capabilities).compile .tsql).flag := by
  have hfive :
      Shortfall.all.countP (demandingColumn.FallsShort Profile.tsql.capabilities ·) = 5 := by
    decide +kernel
  have h := compile_within .tsql demandingColumn (by decide +kernel)
  exact ⟨h.1.trans hfive, h.2⟩

end Column

end CleanSql
