import CleanSql.Proofs.Channels
import CleanSql.Proofs.Frame.Tight

/-!
# Columns in two parts

The value of a column is made in phases, each of them a frame or two around what the phases before
it have left (`Column.valueFrames_eq_flatMap`). A value has no blanks at its ends
(`Column.isTight_value`), so as a custom expression it is read as it was written, and the phases
that are still to come can be those of another column (`Column.expression_late`).
-/
namespace CleanSql

/-- What a value goes through. A cast and the replacement of missing values go together. -/
inductive Phase where
  | trim | letterCase | strip | split | regex | castAndFill | cases
  deriving DecidableEq, Repr

namespace Phase

def order : List Phase := [.trim, .letterCase, .strip, .split, .regex, .castAndFill, .cases]

end Phase

namespace Column

/-- The column with the settings of some phases and a custom expression, and without a filter. -/
def keep (phases : List Phase) (custom : String) (c : Column) : Column :=
  let t := c.transformations
  { c with
    transformations :=
      { trim := if .trim ∈ phases then t.trim else false
        caseNormalization := if .letterCase ∈ phases then t.caseNormalization else .none
        stripSpecialChars := if .strip ∈ phases then t.stripSpecialChars else false
        delimiterSplit := if .split ∈ phases then t.delimiterSplit else {}
        regex := if .regex ∈ phases then t.regex else {}
        typeCast := if .castAndFill ∈ phases then t.typeCast else ""
        nullStrategy := if .castAndFill ∈ phases then t.nullStrategy else .none
        nullReplacement := if .castAndFill ∈ phases then t.nullReplacement else ""
        conditional := if .cases ∈ phases then t.conditional else {}
        customExpression := custom } }

def early (cut : Nat) (c : Column) : Column :=
  c.keep (Phase.order.take cut) c.transformations.customExpression

/-- The column with the phases behind a cut, and with what those before it write as its custom
expression. -/
def late (d : Dialect) (cut : Nat) (c : Column) : Column :=
  c.keep (Phase.order.drop cut) ((c.early cut).compile d).expression

section Phases

variable (p : Profile) (c : Column)

def phaseFrames : Phase → List Frame
  | .trim => (if c.transformations.trim then [.trim] else []).map (Stage.frame p)
  | .letterCase => c.transformations.caseNormalization.stage?.toList.map (Stage.frame p)
  | .strip => (if c.transformations.stripSpecialChars then [.strip] else []).map (Stage.frame p)
  | .split => c.transformations.delimiterSplit.stage?.toList.map (Stage.frame p)
  | .regex => c.transformations.regex.stage?.toList.map (Stage.frame p)
  | .castAndFill =>
    (c.transformations.castRequest?.map Stage.cast).toList.map (Stage.frame p) ++ c.fillFrames p
  | .cases => c.caseFrames

theorem valueFrames_eq_flatMap : c.valueFrames p = Phase.order.flatMap (c.phaseFrames p) := by
  rw [valueFrames, stageFrames, Transformations.stages, Transformations.textStages_eq]
  simp [Phase.order, phaseFrames]

/-- What is kept is in order as before, and what is not is as it is by default. -/
theorem malformations_keep {c : Column} (h : c.transformations.malformations = [])
    (phases : List Phase) (custom : String) :
    (c.keep phases custom).transformations.malformations = [] := by
  have hkept {α : Type} {x y : α} {f : α → List Malformation} (a : Phase) (hx : f x = [])
      (hy : f y = []) : f (if a ∈ phases then x else y) = [] := by
    split_ifs
    · exact hx
    · exact hy
  simp only [Transformations.malformations, List.append_eq_nil_iff] at h ⊢
  obtain ⟨⟨⟨⟨hsplit, hregex⟩, hcases⟩, -⟩, hcast⟩ := h
  refine ⟨⟨⟨⟨?_, ?_⟩, ?_⟩, rfl⟩, ?_⟩
  · exact hkept .split hsplit rfl
  · exact hkept .regex hregex rfl
  · exact hkept .cases hcases rfl
  · exact hkept (f := fun text => (CastReading.of text).malformations) .castAndFill hcast
      (by decide)

/-- A phase that is kept is as it was, and one that is not is empty. -/
theorem phaseFrames_keep (phases : List Phase) (custom : String) (f : Phase) :
    (c.keep phases custom).phaseFrames p f = if f ∈ phases then c.phaseFrames p f else [] := by
  by_cases h : f ∈ phases
  · rw [if_pos h]
    cases f with
    | trim | letterCase | strip | split | regex => simp [phaseFrames, keep, h]
    | castAndFill =>
      simp [phaseFrames, keep, h, fillFrames, replacementType, Transformations.castRequest?]
    | cases => simp [phaseFrames, keep, h, caseFrames, otherwisePiece]
  · rw [if_neg h]
    cases f with
    | trim | letterCase | strip | split | regex =>
      simp [phaseFrames, keep, h, CaseNormalization.stage?, DelimiterSplit.stage?,
        RegexTransform.stage?]
    | castAndFill =>
      have hcast : (CastReading.of "").request? = none := by decide
      simp [phaseFrames, keep, h, fillFrames, Transformations.castRequest?, hcast]
    | cases => simp [phaseFrames, keep, h, caseFrames]

theorem valueFrames_keep (phases : List Phase) (custom : String) :
    (c.keep phases custom).valueFrames p =
      (Phase.order.filter (· ∈ phases)).flatMap (c.phaseFrames p) := by
  rw [valueFrames_eq_flatMap]
  induction Phase.order with
  | nil => rfl
  | cons f order ih =>
    rw [List.flatMap_cons, ih, phaseFrames_keep]
    by_cases h : f ∈ phases
    · rw [if_pos h, List.filter_cons_of_pos (by simpa using h), List.flatMap_cons]
    · rw [if_neg h, List.filter_cons_of_neg (by simpa using h), List.nil_append]

end Phases

end Column

theorem Phase.filter_mem_append {xs ys : List Phase} (h : (xs ++ ys).Nodup) :
    (xs ++ ys).filter (· ∈ xs) = xs ∧ (xs ++ ys).filter (· ∈ ys) = ys := by
  have hdisjoint : ∀ f ∈ xs, f ∉ ys := fun f hx hy => List.disjoint_of_nodup_append h hx hy
  have hall (l : List Phase) : l.filter (· ∈ l) = l := by simp
  have hnone {l l' : List Phase} (hl : ∀ f ∈ l, f ∉ l') : l.filter (· ∈ l') = [] := by
    simpa using hl
  rw [List.filter_append, List.filter_append]
  constructor
  · rw [hall, hnone fun f hy hx => hdisjoint f hx hy, List.append_nil]
  · rw [hall, hnone hdisjoint, List.nil_append]

theorem Phase.filter_mem_take_drop (cut : Nat) :
    order.filter (· ∈ order.take cut) = order.take cut ∧
      order.filter (· ∈ order.drop cut) = order.drop cut := by
  have hnodup : (order.take cut ++ order.drop cut).Nodup := by
    rw [List.take_append_drop]
    decide
  have h := filter_mem_append hnodup
  rwa [List.take_append_drop] at h

namespace Column

variable (d : Dialect) {c : Column}

/-- A value is read as it was written. -/
theorem startExpression_keep_value (phases : List Phase) (c' : Column) :
    (c.keep phases (c'.value d.profile)).startExpression d.profile = c'.value d.profile := by
  have htight := c'.isTight_value d
  have hcustom : (c.keep phases (c'.value d.profile)).transformations.customExpression? =
      some (c'.value d.profile) := by
    show (if Text.trim (c'.value d.profile) = "" then none
      else some (Text.trim (c'.value d.profile))) = some (c'.value d.profile)
    rw [htight.trim_eq, if_neg htight.ne_empty]
  rw [startExpression, hcustom, Option.getD_some]

theorem value_early (cut : Nat) (p : Profile) : (c.early cut).value p =
    Frame.around p (c.startExpression p) ((Phase.order.take cut).flatMap (c.phaseFrames p)) := by
  have hstart : (c.early cut).startExpression p = c.startExpression p := rfl
  rw [value_eq_around, hstart, early, valueFrames_keep, (Phase.filter_mem_take_drop cut).1]

theorem expression_early (cut : Nat) (h : c.transformations.malformations = []) :
    ((c.early cut).compile d).expression = (c.early cut).value d.profile := by
  have hkeep : (c.early cut).transformations.malformations = [] := malformations_keep h _ _
  rw [compile_of_sound d hkeep]

theorem value_late (cut : Nat) (h : c.transformations.malformations = []) :
    (c.late d cut).value d.profile = Frame.around d.profile ((c.early cut).value d.profile)
      ((Phase.order.drop cut).flatMap (c.phaseFrames d.profile)) := by
  have hstart : (c.late d cut).startExpression d.profile = (c.early cut).value d.profile := by
    rw [late, expression_early d cut h]
    exact startExpression_keep_value d _ _
  rw [value_eq_around, hstart, late, valueFrames_keep, (Phase.filter_mem_take_drop cut).2]

/-- A column in order is cut in two: one column has the phases before the cut, the other those
behind it, with what becomes of the first as its custom expression. What becomes of the second is
what becomes of the column as a whole. -/
theorem expression_late (cut : Nat) (h : ¬ ∃ m, c.transformations.Violates m) :
    ((c.late d cut).compile d).expression = (c.compile d).expression := by
  have hsound := Transformations.not_violates_iff.mp h
  have hkeep : (c.late d cut).transformations.malformations = [] := malformations_keep hsound _ _
  have hphases : (Phase.order.take cut).flatMap (c.phaseFrames d.profile) ++
      (Phase.order.drop cut).flatMap (c.phaseFrames d.profile) = c.valueFrames d.profile := by
    rw [← List.flatMap_append, List.take_append_drop, valueFrames_eq_flatMap]
  calc
    ((c.late d cut).compile d).expression = (c.late d cut).value d.profile := by
      rw [compile_of_sound d hkeep]
    _ = Frame.around d.profile (c.startExpression d.profile) (c.valueFrames d.profile) := by
      rw [value_late d cut hsound, value_early, ← Frame.around_append, hphases]
    _ = c.value d.profile := (c.value_eq_around d.profile).symm
    _ = (c.compile d).expression := by
      rw [compile_of_sound d hsound]

theorem expression_late_fullColumn :
    (((fullColumn "" .replace).late .mysql 4).compile .mysql).expression =
      ((fullColumn "" .replace).compile .mysql).expression :=
  expression_late .mysql 4 (by decide +kernel)

end Column

end CleanSql
