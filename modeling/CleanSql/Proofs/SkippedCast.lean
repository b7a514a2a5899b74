import CleanSql.Proofs.Capability
import CleanSql.Proofs.Replacement.Kind

/-!
# Casts that are left out

A cast that the dialect does not have is left out of a value: the stages, the row filter and the
flag are those of the column without it (`Column.staged_uncast`). It still says what a replacement
for missing values is written as. So the value is that of the column without the cast unless a
replacement shows in it that is a literal of another kind for the type of the cast than for the
type of the column (`Column.expression_uncast_iff`).
-/
namespace CleanSql

namespace Profile

variable (p : Profile)

theorem writeCoalesce_inj {e a b : String} : p.writeCoalesce e a = p.writeCoalesce e b ↔ a = b := by
  simp [writeCoalesce]

theorem writeCases_inj {cases : List ConditionalCase} {a b : String} :
    p.writeCases cases a = p.writeCases cases b ↔ a = b := by
  simp [writeCases]

end Profile

namespace Column

def uncast (c : Column) : Column :=
  { c with transformations := { c.transformations with typeCast := "" } }

/-- A replacement for missing values is a part of the value: cases put around it, if there are any,
fall back to the value. -/
def ShowsReplacement (c : Column) : Prop :=
  c.transformations.nullStrategy = .replace ∧
    (c.transformations.conditional.enabled → c.transformations.conditional.otherwise = "")

instance : DecidablePred ShowsReplacement := fun _ => inferInstanceAs (Decidable (_ ∧ _))

section Values

variable (p : Profile) (c : Column)

/-- The literal that stands where the value is missing. -/
def fallback : String :=
  (c.replacementType.literalKind c.transformations.nullReplacement).write p
    c.transformations.nullReplacement

theorem filled_expression_eq : (c.filled p).expression =
    if c.transformations.nullStrategy = .replace then
      p.writeCoalesce (c.staged p).expression (c.fallback p)
    else (c.staged p).expression := by
  unfold filled
  split_ifs with h
  · rw [fallback, ← Profile.orKeep_writeTypedLiteral]
    rfl
  · rfl

variable {p c} {c' : Column}

/-- Two values with the same cases around what the stages leave differ in nothing but a replacement
that shows. -/
theorem value_eq_iff (hstaged : (c.staged p).expression = (c'.staged p).expression)
    (hstrategy : c.transformations.nullStrategy = c'.transformations.nullStrategy)
    (hcases : c.transformations.conditional = c'.transformations.conditional) :
    c.value p = c'.value p ↔ (c.ShowsReplacement → c.fallback p = c'.fallback p) := by
  have hvalue (b : Column) : b.value p =
      if b.transformations.conditional.enabled then
        p.writeCases b.transformations.conditional.cases
          (if b.transformations.conditional.otherwise = "" then (b.filled p).expression
            else p.quoteLiteral b.transformations.conditional.otherwise)
      else (b.filled p).expression := rfl
  have hfilled : (c.filled p).expression = (c'.filled p).expression ↔
      (c.transformations.nullStrategy = .replace → c.fallback p = c'.fallback p) := by
    rw [filled_expression_eq, filled_expression_eq, ← hstaged, ← hstrategy]
    by_cases h : c.transformations.nullStrategy = .replace
    · simp [h, Profile.writeCoalesce_inj]
    · simp [h]
  rw [hvalue c, hvalue c', ← hcases, ShowsReplacement]
  by_cases henabled : c.transformations.conditional.enabled
  · by_cases hotherwise : c.transformations.conditional.otherwise = ""
    · simp [henabled, hotherwise, Profile.writeCases_inj, hfilled]
    · simp [henabled, hotherwise]
  · simp [henabled, hfilled]

end Values

section Uncast

variable {p : Profile} {c : Column} {type : DataType}

theorem castRequest?_uncast : c.uncast.transformations.castRequest? = none := rfl

theorem malformations_uncast (hcast : c.transformations.castRequest? = some (.engine type)) :
    c.uncast.transformations.malformations = c.transformations.malformations := by
  have hnone : (CastReading.of c.transformations.typeCast).malformations = [] := by
    unfold Transformations.castRequest? at hcast
    cases h : CastReading.of c.transformations.typeCast with
    | request _ => rfl
    | absent | unreadable _ =>
      rw [h] at hcast
      cases hcast
  have hempty : (CastReading.of c.uncast.transformations.typeCast).malformations = [] := rfl
  rw [Transformations.malformations, Transformations.malformations, hnone, hempty]
  rfl

/-- The frame of a cast that is left out does nothing. -/
theorem staged_uncast (hcast : c.transformations.castRequest? = some (.engine type))
    (hskip : p.castTarget type = .unsupported) :
    (c.uncast.staged p).expression = (c.staged p).expression := by
  have hframes : c.stageFrames p = c.uncast.stageFrames p ++ [[.hole]] := by
    have hframe : p.castFrame (.engine type) = [.hole] := by
      simp [Profile.castFrame, hskip]
    have htext : c.uncast.transformations.textStages = c.transformations.textStages := rfl
    rw [stageFrames_eq, stageFrames_eq, castRequest?_uncast, hcast, htext]
    simp [hframe]
  have hstart : c.uncast.startExpression p = c.startExpression p := rfl
  rw [staged_expression, staged_expression, hframes, Frame.around_append, hstart]
  simp [Piece.write]

theorem predicates_uncast (hstaged : (c.uncast.staged p).expression = (c.staged p).expression) :
    c.uncast.predicates p = c.predicates p :=
  predicates_congr Iff.rfl (fun _ => dropPredicate_congr rfl (fun _ => rfl) fun _ => hstaged) rfl

end Uncast

/-- A cast that the dialect does not have leaves no trace in the row filter and in the flag of a
column. It leaves none in the value exactly if the column is malformed, or no replacement shows in
the value, or the replacement is a literal of the same kind for the type of the column as for that
of the cast. -/
theorem expression_uncast_iff (d : Dialect) (c : Column) {type : DataType}
    (hcast : c.transformations.castRequest? = some (.engine type))
    (hskip : type ∈ d.profile.capabilities.unsupportedCasts) :
    (c.compile d).rowFilter = (c.uncast.compile d).rowFilter ∧
    (c.compile d).flag = (c.uncast.compile d).flag ∧
    ((c.compile d).expression = (c.uncast.compile d).expression ↔
      (∃ m, c.transformations.Violates m) ∨ ¬ c.ShowsReplacement ∨
        c.dataType.literalKind c.transformations.nullReplacement =
          type.literalKind c.transformations.nullReplacement) := by
  have hmalformed := malformations_uncast hcast
  by_cases hsound : c.transformations.malformations = []
  · have hstaged := staged_uncast hcast ((d.profile.mem_unsupportedCasts_iff).mp hskip)
    have hfallback : c.fallback d.profile = c.uncast.fallback d.profile ↔
        c.dataType.literalKind c.transformations.nullReplacement =
          type.literalKind c.transformations.nullReplacement := by
      have htype : c.replacementType = type := by rw [replacementType, hcast]
      have huncast : c.uncast.replacementType = c.dataType := rfl
      rw [fallback, fallback, htype, huncast, eq_comm]
      exact DataType.write_literalKind_inj d
    have hinorder : ¬ ∃ m, c.transformations.Violates m :=
      Transformations.not_violates_iff.mpr hsound
    rw [compile_of_sound d hsound, compile_of_sound d (hmalformed.trans hsound)]
    refine ⟨congrArg conjunction? (predicates_uncast hstaged).symm,
      flag?_congr rfl rfl hstaged.symm, ?_⟩
    show c.value d.profile = c.uncast.value d.profile ↔ _
    rw [value_eq_iff hstaged.symm rfl rfl, hfallback]
    by_cases hshows : c.ShowsReplacement <;> simp [hshows, hinorder]
  · have hviolates : ∃ m, c.transformations.Violates m := by
      by_contra hnone
      exact hsound (Transformations.not_violates_iff.mp hnone)
    have hdegraded {b : Column} (hb : b.transformations.malformations ≠ []) :
        b.compile d = b.degraded d.profile := by
      simp [compile, hb]
    have huncast : c.uncast.transformations.malformations ≠ [] := by rwa [hmalformed]
    rw [hdegraded hsound, hdegraded huncast]
    exact ⟨rfl, rfl, iff_of_true rfl (.inl hviolates)⟩

/-- A column of whole numbers that is to be cast to a type not every dialect has. -/
def documentColumn : Column where
  name := "n"
  dataType := .integer
  transformations := { typeCast := "json", nullStrategy := .replace, nullReplacement := "0" }

theorem expression_uncast_documentColumn :
    documentColumn.transformations.castRequest? = some (.engine .json) ∧
    DataType.json ∈ Dialect.ansi.profile.capabilities.unsupportedCasts ∧
    (documentColumn.compile .ansi).rowFilter = (documentColumn.uncast.compile .ansi).rowFilter ∧
    (documentColumn.compile .ansi).flag = (documentColumn.uncast.compile .ansi).flag ∧
    (documentColumn.compile .ansi).expression ≠ (documentColumn.uncast.compile .ansi).expression := by
  have hcast : documentColumn.transformations.castRequest? = some (.engine .json) := by
    decide +kernel
  have hskip : DataType.json ∈ Dialect.ansi.profile.capabilities.unsupportedCasts := by decide
  have h := expression_uncast_iff .ansi documentColumn hcast hskip
  exact ⟨hcast, hskip, h.1, h.2.1, mt h.2.2.mp (by decide +kernel)⟩

theorem not_forall_expression_uncast :
    ¬ ∀ (d : Dialect) (c : Column) (type : DataType),
      c.transformations.castRequest? = some (.engine type) →
        type ∈ d.profile.capabilities.unsupportedCasts →
          (c.compile d).expression = (c.uncast.compile d).expression := by
  intro hall
  have h := hall .ansi documentColumn .json (by decide +kernel) (by decide)
  revert h
  decide +kernel

end Column

end CleanSql
