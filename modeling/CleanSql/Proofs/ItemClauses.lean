import CleanSql.Document.Sql
import CleanSql.Proofs.Containment
import CleanSql.Proofs.RowFilter
import CleanSql.Proofs.Surface

/-!
# Clauses in what is selected

The stages of a column put its expression into parentheses, and so does a fallback for missing
values. What stands outside of them are names of functions, and types behind a double colon. So
what is selected for a column has no words of clauses outside of quotes and parentheses but the one
before its name, unless a type is written as it stands behind a double colon, and holds such words
(`Column.outerClauses_columnItems`).
-/
namespace CleanSql

namespace Frame

variable {p : Profile} {f : Frame} {e : String}

/-- Whatever the frame is put around, nothing shows that makes a clause. -/
def Covers (p : Profile) (f : Frame) : Prop := ∀ e, Text.clauses (f.surface p e 0) = []

theorem outerClauses_fill (hf : f.Balanced p) (hpart : ∀ sql ∈ f.parts, Neutral p sql)
    (he : Neutral p e) : outerClauses p (f.fill p e) = Text.clauses (f.surface p e 0) := by
  rw [outerClauses, surface_fill hf hpart he]

theorem outerClauses_of_covers (h : f.Covers p) (hf : f.Balanced p)
    (hpart : ∀ sql ∈ f.parts, Neutral p sql) (he : Neutral p e) :
    outerClauses p (f.fill p e) = [] := by
  rw [outerClauses_fill hf hpart he, h]

/-- Frames that are empty or cover their expression show no clauses if the expression has none. -/
theorem outerClauses_around {fs : List Frame} (hcovers : ∀ f ∈ fs, f = [.hole] ∨ Covers p f)
    (hf : ∀ f ∈ fs, Balanced p f) (hpart : ∀ f ∈ fs, ∀ sql ∈ f.parts, Neutral p sql)
    (he : Neutral p e) (hquiet : outerClauses p e = []) : outerClauses p (around p e fs) = [] := by
  induction fs generalizing e with
  | nil => exact hquiet
  | cons f fs ih =>
    rw [List.forall_mem_cons] at hcovers hf hpart
    refine ih hcovers.2 hf.2 hpart.2 (neutral_fill hf.1 hpart.1 he) ?_
    obtain rfl | h := hcovers.1
    · simpa [Piece.write] using hquiet
    · exact outerClauses_of_covers h hf.1 hpart.1 he

end Frame

theorem outerClauses_toString (p : Profile) (n : UInt64) : outerClauses p (toString n) = [] := by
  refine Text.clauses_eq_nil fun c hc halpha => ?_
  obtain hc | rfl := ScanState.mem_of_mem_surface hc
  · have hdigit := isDigit_of_mem_toString n hc
    exact Text.not_isAlpha_of_isDigit hdigit halpha
  · exact absurd halpha (by decide)

namespace Stage

variable (d : Dialect)

theorem covers_regexFrame (pattern replacement : String) (h : d.profile.regex ≠ .unsupported) :
    (d.profile.regexFrame pattern replacement).Covers d.profile := by
  intro e
  cases d with
  | tsql | ansi => exact absurd rfl h
  | _ => rfl

theorem covers_splitFrame (delimiter : String) (index : UInt64)
    (h : d.profile.splitFrame delimiter index ≠ [.hole]) :
    (d.profile.splitFrame delimiter index).Covers d.profile := by
  revert h
  unfold Profile.splitFrame
  cases d.profile.split.base?.elim (some index) (·.native? index) with
  | none => exact fun h => absurd rfl h
  | some native =>
    intro h e
    cases d with
    | tsql | ansi => exact absurd rfl h
    | spark =>
      have hnumber : Text.clauses (ScanState.surface .spark {} (toString native).toList) = [] :=
        outerClauses_toString .spark native
      show Text.clauses ("SPLIT ".toList ++ '[' ::
        (ScanState.surface .spark {} (toString native).toList ++ ']' :: [])) = []
      rw [Text.clauses_append_cons (by decide), Text.clauses_append_cons (by decide), hnumber]
      rfl
    | snowflake | bigquery | mysql | postgresql => rfl

/-- A stage in front of the cast is left out or covers its expression. -/
theorem covers_frame {s : Stage} (h : ∀ request, s ≠ .cast request) :
    s.frame d.profile = [.hole] ∨ (s.frame d.profile).Covers d.profile := by
  cases s with
  | trim | upper | lower | title =>
    exact .inr fun e => by cases d <;> rfl
  | strip | regex _ _ =>
    by_cases hregex : d.profile.regex = .unsupported
    · exact .inl (by simp [frame, Profile.regexFrame, hregex])
    · exact .inr (covers_regexFrame d _ _ hregex)
  | split delimiter index =>
    by_cases hsplit : d.profile.splitFrame delimiter index = [.hole]
    · exact .inl hsplit
    · exact .inr (covers_splitFrame d delimiter index hsplit)
  | cast request => exact absurd rfl (h request)

theorem outerClauses_castToFrame {type e : String} (htype : Neutral d.profile type)
    (he : Neutral d.profile e) :
    outerClauses d.profile ((d.profile.castToFrame type).fill d.profile e) =
      if d.profile.castStyle = .doubleColon then outerClauses d.profile type else [] := by
  have hpart : ∀ sql ∈ (d.profile.castToFrame type).parts, Neutral d.profile sql := by
    intro sql hsql
    unfold Profile.castToFrame at hsql
    split at hsql <;> exact List.mem_singleton.mp hsql ▸ htype
  have hbalanced : (d.profile.castToFrame type).Balanced d.profile := by
    cases d <;> exact ⟨_, rfl, rfl⟩
  rw [Frame.outerClauses_fill hbalanced hpart he]
  cases d with
  | postgresql =>
    have hsurface : (Dialect.postgresql.profile.castToFrame type).surface
        Dialect.postgresql.profile e 0 =
        [' ', ':'] ++ ':' :: (ScanState.surface Dialect.postgresql.profile {} type.toList ++ []) :=
      rfl
    have hcolons : Text.clauses [' ', ':'] = [] := rfl
    rw [hsurface, Text.clauses_append_cons (by decide), hcolons, List.nil_append, List.append_nil]
    rfl
  | _ => rfl

theorem outerClauses_castTarget {type : DataType} {name : String}
    (h : d.profile.castTarget type = .type name) : outerClauses d.profile name = [] := by
  cases d <;> cases type <;> cases h <;> rfl

/-- No type of the engine makes a clause. -/
theorem outerClauses_castFrame (type : DataType) {e : String} (he : Neutral d.profile e)
    (hquiet : outerClauses d.profile e = []) :
    outerClauses d.profile ((d.profile.castFrame (.engine type)).fill d.profile e) = [] := by
  cases htarget : d.profile.castTarget type with
  | type name =>
    rw [Profile.castFrame, htarget, outerClauses_castToFrame d (d.neutral_castTarget htarget) he,
      outerClauses_castTarget d htarget, ite_self]
  | function name =>
    have hcovers : (Frame.call name).Covers d.profile := by
      intro e
      cases d <;> cases type <;> cases htarget <;> rfl
    have hbalanced : (Frame.call name).Balanced d.profile := by
      cases d <;> cases type <;> cases htarget <;> exact ⟨_, rfl, rfl⟩
    rw [Profile.castFrame, htarget]
    exact Frame.outerClauses_of_covers hcovers hbalanced (List.forall_mem_nil _) he
  | unsupported =>
    rw [Profile.castFrame, htarget]
    simpa [Piece.write] using hquiet

end Stage

namespace Transformations

/-- The words of a type written as it stands that come to stand outside of parentheses. -/
def bareClauses (p : Profile) (t : Transformations) : List String :=
  match p.castStyle, t.castRequest? with
  | .doubleColon, some (.verbatim name) => outerClauses p name
  | _, _ => []

end Transformations

namespace Column

variable (d : Dialect) {c : Column}

theorem outerClauses_quoteIdentifier (name : String) :
    outerClauses d.profile (d.profile.quoteIdentifier name) = [] := by
  refine Text.clauses_eq_nil fun c hc => ?_
  rw [ScanState.surface_quoteIdentifier name c hc]
  decide

theorem startExpression_eq {p : Profile} (hcustom : c.transformations.customExpression? = none) :
    c.startExpression p = p.quoteIdentifier c.name := by
  rw [startExpression, hcustom]
  rfl

/-- The stages in front of the cast leave no clauses, and the cast those of its type. -/
theorem outerClauses_staged (hcustom : c.transformations.customExpression? = none) :
    outerClauses d.profile (c.staged d.profile).expression =
      c.transformations.bareClauses d.profile := by
  have hbalanced := c.balanced_stageFrames d
  have hpart (f : Frame) (hf : f ∈ c.stageFrames d.profile) :
      ∀ sql ∈ f.parts, Neutral d.profile sql := fun sql => c.neutral_stagePart d hf
  rw [stageFrames_eq, List.forall_mem_append] at hbalanced hpart
  rw [staged_expression, stageFrames_eq, Frame.around_append, startExpression_eq hcustom]
  have hneutral := Frame.neutral_around hbalanced.1 hpart.1
    (neutral_quoteIdentifier (p := d.profile) c.name)
  have hcovers : ∀ f ∈ c.transformations.textStages.map (Stage.frame d.profile),
      f = [.hole] ∨ f.Covers d.profile := by
    intro f hf
    obtain ⟨s, hs, rfl⟩ := List.mem_map.mp hf
    exact Stage.covers_frame d fun request hcast => cast_not_mem_textStages request (hcast ▸ hs)
  have hquiet := Frame.outerClauses_around hcovers hbalanced.1 hpart.1
    (neutral_quoteIdentifier c.name) (outerClauses_quoteIdentifier d c.name)
  unfold Transformations.bareClauses
  cases hcast : c.transformations.castRequest? with
  | none => simpa using hquiet
  | some request =>
    rw [Option.map_some, Option.toList_some, Frame.around_cons, Frame.around_nil]
    cases request with
    | engine type =>
      rw [Stage.outerClauses_castFrame d type hneutral hquiet]
      cases d.profile.castStyle <;> rfl
    | verbatim name =>
      obtain ⟨hname, htrim⟩ := castRequest?_verbatim hcast
      have hsame : Text.trim name = name := by
        rw [htrim, Text.trim_trim]
      rw [Profile.castFrame, hsame,
        Stage.outerClauses_castToFrame d (neutral_of_isTypeName hname) hneutral]
      cases d.profile.castStyle <;> rfl

/-- The words of clauses that the type of a column adds to its value: a fallback for missing values
puts them into parentheses. -/
def exposedClauses (p : Profile) (c : Column) : List String :=
  if c.transformations.nullStrategy = .replace then [] else c.transformations.bareClauses p

theorem covers_coalesceFrame {q : Piece} (hq : ∀ sql, q ≠ .text sql) :
    (Profile.coalesceFrame q).Covers d.profile := by
  intro e
  cases q with
  | text sql => exact absurd rfl (hq sql)
  | literal _ | part _ | hole => cases d <;> rfl

theorem neutral_staged_of_reference (hcustom : c.transformations.customExpression? = none) :
    Neutral d.profile (c.staged d.profile).expression := by
  refine neutral_staged_of_start d ?_
  rw [startExpression_eq hcustom]
  exact neutral_quoteIdentifier c.name

theorem value_of_not_cases {p : Profile} (hcases : ¬ c.transformations.conditional.enabled) :
    c.value p = if c.transformations.nullStrategy = .replace then
      (Profile.coalesceFrame (p.replacementPiece c.replacementType
        c.transformations.nullReplacement)).fill p (c.staged p).expression
    else (c.staged p).expression := by
  have hvalue : c.value p = (c.filled p).expression := by
    simp [value, hcases]
  rw [hvalue, filled_expression, fillFrames]
  split_ifs <;> rfl

theorem neutral_value_of_reference (hcustom : c.transformations.customExpression? = none)
    (hcases : ¬ c.transformations.conditional.enabled) :
    Neutral d.profile (c.value d.profile) := by
  rw [value_of_not_cases hcases]
  split_ifs
  · exact Frame.neutral_fill (balanced_coalesceFrame d (replacementPiece_ne_text _ _ _))
      (fun sql => neutral_replacementPart d) (neutral_staged_of_reference d hcustom)
  · exact neutral_staged_of_reference d hcustom

theorem outerClauses_value (hcustom : c.transformations.customExpression? = none)
    (hcases : ¬ c.transformations.conditional.enabled) :
    outerClauses d.profile (c.value d.profile) = c.exposedClauses d.profile := by
  rw [value_of_not_cases hcases, exposedClauses]
  split_ifs
  · have hpiece := replacementPiece_ne_text d.profile c.replacementType
      c.transformations.nullReplacement
    exact Frame.outerClauses_of_covers (covers_coalesceFrame d hpiece)
      (balanced_coalesceFrame d hpiece) (fun sql => neutral_replacementPart d)
      (neutral_staged_of_reference d hcustom)
  · exact outerClauses_staged d hcustom

theorem parts_nullFlagFrame : ∀ sql ∈ d.profile.nullFlagFrame.parts, Neutral d.profile sql := by
  intro sql hsql
  unfold Profile.nullFlagFrame at hsql
  split at hsql <;> cases hsql

theorem neutral_writeNullFlag {e : String} (he : Neutral d.profile e) :
    Neutral d.profile (d.profile.writeNullFlag e) := by
  rw [← Profile.fill_nullFlagFrame]
  exact Frame.neutral_fill (balanced_nullFlagFrame d) (parts_nullFlagFrame d) he

/-- A flag keeps its column in parentheses wherever types stand behind a double colon. -/
theorem outerClauses_writeNullFlag {e : String} (he : Neutral d.profile e)
    (hquiet : d.profile.castStyle ≠ .doubleColon → outerClauses d.profile e = []) :
    outerClauses d.profile (d.profile.writeNullFlag e) = [] := by
  rw [← Profile.fill_nullFlagFrame, Frame.outerClauses_fill (balanced_nullFlagFrame d)
    (parts_nullFlagFrame d) he]
  cases d with
  | tsql =>
    have hbefore : ScanState.surface Dialect.tsql.profile {} "CASE WHEN ".toList =
        "CASE WHEN".toList ++ ' ' :: [] := by decide
    have hdepth : (ScanState.run Dialect.tsql.profile {} "CASE WHEN ".toList).elim 0
        ScanState.depth = 0 := by decide
    have hbehind : ScanState.surface Dialect.tsql.profile {} " IS NULL THEN 1 ELSE 0 END".toList =
        ' ' :: "IS NULL THEN 1 ELSE 0 END".toList := by decide
    have hframe : Dialect.tsql.profile.nullFlagFrame =
        [.text "CASE WHEN ", .hole, .text " IS NULL THEN 1 ELSE 0 END"] := rfl
    have hsurface : Dialect.tsql.profile.nullFlagFrame.surface Dialect.tsql.profile e 0 =
        "CASE WHEN".toList ++ ' ' :: (ScanState.surface Dialect.tsql.profile {} e.toList ++
          ' ' :: "IS NULL THEN 1 ELSE 0 END".toList) := by
      simp only [hframe, Frame.surface, Piece.write, hbefore, hdepth, hbehind]
      simp
    have hcase : Text.clauses "CASE WHEN".toList = [] := rfl
    have hend : Text.clauses "IS NULL THEN 1 ELSE 0 END".toList = [] := rfl
    have he : Text.clauses (ScanState.surface Dialect.tsql.profile {} e.toList) = [] :=
      hquiet (by decide)
    rw [hsurface, Text.clauses_append_cons (by decide), Text.clauses_append_cons (by decide), hcase,
      he, hend]
    rfl
  | _ => rfl

end Column

namespace Statement

variable (d : Dialect)

theorem outerClauses_selectItem {e : String} (name : String) (he : Neutral d.profile e) :
    outerClauses d.profile (selectItem d e name) = outerClauses d.profile e ++ ["AS"] := by
  have hfill : selectItem d e name =
      Frame.fill d.profile e [.hole, .text " AS ", .part (d.profile.quoteIdentifier name)] := by
    simp [selectItem, Piece.write, String.append_assoc]
  have hpart : ∀ sql ∈ Frame.parts [.hole, .text " AS ", .part (d.profile.quoteIdentifier name)],
      Neutral d.profile sql := by
    intro sql hsql
    rw [List.mem_singleton.mp hsql]
    exact neutral_quoteIdentifier name
  have htext : ScanState.surface d.profile {} " AS ".toList = ' ' :: ("AS".toList ++ ' ' :: []) := by
    cases d <;> rfl
  have hdepth : (ScanState.run d.profile {} " AS ".toList).elim 0 ScanState.depth = 0 := by
    cases d <;> rfl
  have hsurface : Frame.surface d.profile e 0
        [.hole, .text " AS ", .part (d.profile.quoteIdentifier name)] =
      ScanState.surface d.profile {} e.toList ++ ' ' :: ("AS".toList ++ ' ' ::
        ScanState.surface d.profile {} (d.profile.quoteIdentifier name).toList) := by
    simp only [Frame.surface, Piece.write, htext, hdepth]
    simp
  have hname : Text.clauses (ScanState.surface d.profile {}
      (d.profile.quoteIdentifier name).toList) = [] := Column.outerClauses_quoteIdentifier d name
  have has : Text.clauses "AS".toList = ["AS"] := rfl
  rw [hfill, Frame.outerClauses_fill (by cases d <;> exact ⟨_, rfl, rfl⟩) hpart he, hsurface,
    Text.clauses_append_cons (by decide), Text.clauses_append_cons (by decide), hname, has]
  rfl

end Statement

namespace Column

theorem exposedClauses_eq_nil_iff {p : Profile} {c : Column} : c.exposedClauses p = [] ↔
    ¬ (p.castStyle = .doubleColon ∧ c.transformations.nullStrategy ≠ .replace ∧
      ∃ name, c.transformations.castRequest? = some (.verbatim name) ∧
        outerClauses p name ≠ []) := by
  unfold exposedClauses Transformations.bareClauses
  cases p.castStyle with
  | function => simp
  | doubleColon =>
    by_cases hreplace : c.transformations.nullStrategy = .replace
    · simp [hreplace]
    · cases c.transformations.castRequest? with
      | none => simp [hreplace]
      | some request => cases request <;> simp [hreplace]

/-- A column in order without SQL of its own and without cases. Outside of quotes and parentheses
its flag has the one word "AS" and no other that makes a clause, and its value has this word behind
those of its type, if the type is written as it stands behind a double colon and nothing is put
around it. So all that is selected for the column keeps to its place exactly if no such type has
words of clauses. -/
theorem outerClauses_columnItems (d : Dialect) (c : Column)
    (hsound : ¬ ∃ m, c.transformations.Violates m)
    (hcustom : Text.trim c.transformations.customExpression = "")
    (hcases : ¬ c.transformations.conditional.enabled) :
    (Statement.columnItems d (c.compile d)).map (outerClauses d.profile) =
      (c.exposedClauses d.profile ++ ["AS"]) ::
        ((c.compile d).flag.map fun _ => ["AS"]).toList ∧
    ((∀ item ∈ Statement.columnItems d (c.compile d), outerClauses d.profile item = ["AS"]) ↔
      ¬ (d.profile.castStyle = .doubleColon ∧ c.transformations.nullStrategy ≠ .replace ∧
        ∃ name, c.transformations.castRequest? = some (.verbatim name) ∧
          outerClauses d.profile name ≠ [])) := by
  have hnone : c.transformations.customExpression? = none := by
    simp [Transformations.customExpression?, hcustom]
  have hneutral := neutral_staged_of_reference d hnone
  have hmap : (Statement.columnItems d (c.compile d)).map (outerClauses d.profile) =
      (c.exposedClauses d.profile ++ ["AS"]) ::
        ((c.compile d).flag.map fun _ => ["AS"]).toList := by
    rw [compile_of_sound d (Transformations.not_violates_iff.mp hsound), Statement.columnItems,
      List.map_cons, Statement.outerClauses_selectItem d c.name
        (neutral_value_of_reference d hnone hcases), outerClauses_value d hnone hcases]
    refine congrArg _ ?_
    dsimp only
    unfold flag?
    split_ifs
    · have hquiet : d.profile.castStyle ≠ .doubleColon →
          outerClauses d.profile (c.staged d.profile).expression = [] := by
        intro hstyle
        rw [outerClauses_staged d hnone, Transformations.bareClauses]
        split <;> simp_all
      simp [Statement.outerClauses_selectItem d _ (neutral_writeNullFlag d hneutral),
        outerClauses_writeNullFlag d hneutral hquiet]
    · rfl
  refine ⟨hmap, ?_⟩
  rw [← exposedClauses_eq_nil_iff]
  have hall : (∀ item ∈ Statement.columnItems d (c.compile d),
        outerClauses d.profile item = ["AS"]) ↔
      ∀ words ∈ (Statement.columnItems d (c.compile d)).map (outerClauses d.profile),
        words = ["AS"] := by
    simp
  rw [hall, hmap]
  simp

/-- A column that is cast to a type with a size. -/
def sizedColumn : Column where
  name := "from"
  transformations := { typeCast := "Numeric (10, 2)", nullStrategy := .flag }

theorem outerClauses_columnItems_sizedColumn :
    (¬ ∃ m, sizedColumn.transformations.Violates m) ∧
    Text.trim sizedColumn.transformations.customExpression = "" ∧
    ¬ sizedColumn.transformations.conditional.enabled ∧
    ∀ item ∈ Statement.columnItems .postgresql (sizedColumn.compile .postgresql),
      outerClauses .postgresql item = ["AS"] := by
  have hsound : ¬ ∃ m, sizedColumn.transformations.Violates m := by decide +kernel
  have hcustom : Text.trim sizedColumn.transformations.customExpression = "" := by decide
  have hcases : ¬ sizedColumn.transformations.conditional.enabled := by decide
  have hcast : sizedColumn.transformations.castRequest? = some (.verbatim "Numeric (10, 2)") := by
    decide +kernel
  refine ⟨hsound, hcustom, hcases,
    (outerClauses_columnItems .postgresql sizedColumn hsound hcustom hcases).2.mpr ?_⟩
  rintro ⟨-, -, name, hname, hclauses⟩
  rw [hcast] at hname
  cases hname
  exact hclauses (by decide)

/-- A type may read as a clause of its own. -/
theorem not_forall_outerClauses_columnItems :
    ¬ ∀ (d : Dialect) (c : Column), (¬ ∃ m, c.transformations.Violates m) →
      Text.trim c.transformations.customExpression = "" →
      ¬ c.transformations.conditional.enabled → ¬ c.transformations.whereFilter.enabled →
        ∀ item ∈ Statement.columnItems d (c.compile d), outerClauses d.profile item = ["AS"] := by
  intro hall
  have h := hall .postgresql { name := "c", transformations := { typeCast := "INT FROM t" } }
    (by decide +kernel) (by decide) (by decide) (by decide)
  revert h
  decide +kernel

end Column

end CleanSql
