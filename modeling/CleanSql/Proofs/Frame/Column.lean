import CleanSql.Column.Compiled
import CleanSql.Proofs.Frame.Stage
import CleanSql.Proofs.Trim
import CleanSql.Proofs.TypeText

/-!
# The frames of a column

In each of the dialects the frames of the stages are balanced, and their parts are numbers and
types. The whole way of a value is a list of frames around its start expression
(`Column.value_eq_around`), whose parts are neutral or texts that the column carries
(`Column.neutral_or_verbatim`).
-/
namespace CleanSql

namespace Stage

variable (d : Dialect)

theorem balanced_frame (s : Stage) : (s.frame d.profile).Balanced d.profile := by
  cases s with
  | trim | upper | lower | title | strip | regex _ _ => cases d <;> exact ⟨_, rfl, rfl⟩
  | split delimiter index =>
    -- Dialects that count from one have no frame for the last index.
    simp only [frame, Profile.splitFrame]
    split
    · exact ⟨_, rfl, rfl⟩
    · cases d <;> exact ⟨_, rfl, rfl⟩
  | cast request =>
    cases request with
    | verbatim name => cases d <;> exact ⟨_, rfl, rfl⟩
    | engine type => cases d <;> cases type <;> exact ⟨_, rfl, rfl⟩

end Stage

theorem isDigit_of_mem_toString (n : UInt64) {c : Char} (h : c ∈ (toString n).toList) :
    c.isDigit := by
  have hdigits : c ∈ Nat.toDigits 10 n.toNat := by
    rw [← Nat.toList_repr]
    exact h
  exact Nat.isDigit_of_mem_toDigits (by decide) (by decide) hdigits

theorem neutral_toString (p : Profile) (n : UInt64) : Neutral p (toString n) :=
  neutral_of_isPlain fun _ hc => isPlain_of_kind (by decide) (isDigit_of_mem_toString n hc)

theorem Dialect.neutral_castTarget (d : Dialect) {t : DataType} {name : String}
    (h : d.profile.castTarget t = .type name) : Neutral d.profile name := by
  cases d <;> cases t <;> cases h <;> decide

namespace Stage

variable {d : Dialect}

theorem mem_parts {s : Stage} {sql : String} (h : sql ∈ (s.frame d.profile).parts) :
    (∃ n : UInt64, sql = toString n) ∨ (∃ type, d.profile.castTarget type = .type sql) ∨
      ∃ name, s = .cast (.verbatim name) ∧ sql = Text.trim name := by
  have hto {type : String} (ht : sql ∈ (d.profile.castToFrame type).parts) : sql = type := by
    unfold Profile.castToFrame at ht
    split at ht <;> exact List.mem_singleton.mp ht
  cases s with
  | trim | upper | lower | title | strip | regex _ _ => cases d <;> cases h
  | split delimiter index =>
    simp only [frame, Profile.splitFrame] at h
    split at h
    · cases h
    · next native _ =>
      refine .inl ⟨native, ?_⟩
      cases d with
      | tsql | ansi => cases h
      | _ => exact List.mem_singleton.mp h
  | cast request =>
    cases request with
    | verbatim name => exact .inr (.inr ⟨name, rfl, hto h⟩)
    | engine type =>
      simp only [frame, Profile.castFrame] at h
      split at h
      · next name ht =>
        rw [hto h]
        exact .inr (.inl ⟨type, ht⟩)
      · cases h
      · cases h

end Stage

theorem foldl_ne_failed_of_isNumeral {text : String} (h : isNumeral text) :
    text.toList.foldl NumeralState.step .start ≠ .failed := by
  intro hf
  rw [isNumeral, hf] at h
  cases h

theorem neutral_of_isNumeral {p : Profile} {text : String} (h : isNumeral text) :
    Neutral p text := by
  have hplain (s : NumeralState) (c : Char) (hs : s.step c ≠ .failed) : isPlain c := by
    have hsign (hc : NumeralState.isSign c = true) : isPlain c := isPlain_of_kind (by decide) hc
    have hmark (hc : NumeralState.isExponentMark c = true) : isPlain c :=
      isPlain_of_kind (by decide) hc
    have hdigit (hc : Text.isDecimalDigit c = true) : isPlain c := isPlain_of_kind (by decide) hc
    have hpoint (hc : (c == '.') = true) : isPlain c :=
      isPlain_of_kind (k := (· == '.')) (by decide) hc
    cases s with
    | failed => exact absurd rfl hs
    | _ =>
      simp only [NumeralState.step] at hs
      split_ifs at hs <;> simp_all
  refine neutral_of_isPlain fun c hc => ?_
  obtain ⟨s, hs⟩ :=
    Automaton.exists_step_ne_failed (fun _ => rfl) (foldl_ne_failed_of_isNumeral h) c hc
  exact hplain s c hs

namespace Profile

variable (p : Profile)

/-- The types whose replacement is a literal, whatever its text. -/
def isTextual (t : DataType) : Bool := t = .string || t = .json

def replacementPiece (type : DataType) (value : String) : Piece :=
  if isTextual type then .literal value
  else .part ((p.writeTypedLiteral type value).orKeep (p.quoteLiteral value))

def coalesceFrame (fallback : Piece) : Frame :=
  [.text "COALESCE(", .hole, .text ", ", fallback, .text ")"]

def caseFrame (c : ConditionalCase) : Frame :=
  [.text " WHEN ", .part (Text.trim c.condition), .text " THEN ", .literal c.result]

def casesFrame (cases : List ConditionalCase) (otherwise : Piece) : Frame :=
  .text "CASE" :: (cases.flatMap caseFrame ++ [.text " ELSE ", otherwise, .text " END"])

def nullFlagFrame : Frame :=
  if p.booleanValues then [.text "(", .hole, .text " IS NULL)"]
  else [.text "CASE WHEN ", .hole, .text " IS NULL THEN 1 ELSE 0 END"]

def notNullFrame : Frame := [.hole, .text " IS NOT NULL"]

def parenFrame : Frame := [.text "(", .hole, .text ")"]

variable {p}

theorem write_replacementPiece (type : DataType) (value e : String) :
    (p.replacementPiece type value).write p e =
      (p.writeTypedLiteral type value).orKeep (p.quoteLiteral value) := by
  cases type <;> rfl

theorem fill_coalesceFrame (fallback : Piece) (e : String) :
    (coalesceFrame fallback).fill p e = p.writeCoalesce e (fallback.write p e) := by
  simp [coalesceFrame, writeCoalesce, Piece.write, String.append_assoc]

theorem fill_casesFrame (cases : List ConditionalCase) (otherwise : Piece) (e : String) :
    (casesFrame cases otherwise).fill p e = p.writeCases cases (otherwise.write p e) := by
  have hcases : Frame.fill p e (cases.flatMap caseFrame) = String.join (cases.map p.writeCase) := by
    induction cases with
    | nil => rfl
    | cons c cases ih =>
      rw [List.flatMap_cons, Frame.fill_append, ih, List.map_cons, String.join_cons]
      simp [caseFrame, writeCase, Piece.write, String.append_assoc]
  simp [casesFrame, writeCases, hcases, Piece.write, String.append_assoc]

theorem fill_nullFlagFrame (e : String) : p.nullFlagFrame.fill p e = p.writeNullFlag e := by
  cases h : p.booleanValues <;>
    simp [nullFlagFrame, writeNullFlag, h, Piece.write, String.append_assoc]

theorem fill_notNullFrame (e : String) : notNullFrame.fill p e = p.writeNotNull e := by
  simp [notNullFrame, writeNotNull, Piece.write]

theorem fill_parenFrame (e : String) : parenFrame.fill p e = "(" ++ e ++ ")" := by
  simp [parenFrame, Piece.write, String.append_assoc]

end Profile

section Balanced

open Profile

variable (d : Dialect)

theorem balanced_coalesceFrame {q : Piece} (hq : ∀ sql, q ≠ .text sql) :
    (coalesceFrame q).Balanced d.profile := by
  cases q with
  | text sql => exact absurd rfl (hq sql)
  | literal _ | part _ | hole => cases d <;> exact ⟨_, rfl, rfl⟩

theorem balanced_casesFrame (cases : List ConditionalCase) {q : Piece} (hq : ∀ sql, q ≠ .text sql) :
    (casesFrame cases q).Balanced d.profile := by
  have hcase (b : Bool) (c : ConditionalCase) :
      Frame.check d.profile ⟨b, 0⟩ (caseFrame c) = some ⟨false, 0⟩ := by
    cases b <;> cases d <;> rfl
  have hcases (b : Bool) : ∃ b', Frame.check d.profile ⟨b, 0⟩ (cases.flatMap caseFrame) =
      some ⟨b', 0⟩ := by
    induction cases generalizing b with
    | nil => exact ⟨b, rfl⟩
    | cons c cases ih =>
      rw [List.flatMap_cons, Frame.check_append, hcase, Option.bind_some]
      exact ih false
  have hstart : (Piece.text "CASE").check d.profile {} = some ⟨true, 0⟩ := by cases d <;> rfl
  have hend (b : Bool) : Frame.check d.profile ⟨b, 0⟩ [.text " ELSE ", q, .text " END"] =
      some ⟨true, 0⟩ := by
    cases q with
    | text sql => exact absurd rfl (hq sql)
    | literal _ | part _ | hole => cases b <;> cases d <;> rfl
  obtain ⟨b, hb⟩ := hcases true
  refine ⟨⟨true, 0⟩, ?_, rfl⟩
  rw [casesFrame, Frame.check_cons, hstart, Option.bind_some, Frame.check_append, hb,
    Option.bind_some, hend]
  rfl

theorem balanced_nullFlagFrame : d.profile.nullFlagFrame.Balanced d.profile := by
  cases d <;> exact ⟨_, rfl, rfl⟩

theorem balanced_notNullFrame : notNullFrame.Balanced d.profile := by
  cases d <;> exact ⟨_, rfl, rfl⟩

theorem balanced_parenFrame : parenFrame.Balanced d.profile := by
  cases d <;> exact ⟨_, rfl, rfl⟩

theorem balanced_and (sql : String) :
    Frame.Balanced d.profile [.part sql, .text " AND ", .hole] ∧
      Frame.Balanced d.profile [.hole, .text " AND ", .part sql] := by
  cases d <;> exact ⟨⟨_, rfl, rfl⟩, _, rfl, rfl⟩

theorem neutral_writeCast_engine (type : DataType) {e : String} (he : Neutral d.profile e) :
    Neutral d.profile ((d.profile.writeCast (.engine type) e).orKeep e) := by
  rw [← fill_castFrame]
  refine Frame.neutral_fill (Stage.balanced_frame d (.cast (.engine type))) (fun sql h => ?_) he
  obtain ⟨n, rfl⟩ | ⟨t, ht⟩ | ⟨name, hname, -⟩ := Stage.mem_parts (s := .cast (.engine type)) h
  · exact neutral_toString _ n
  · exact d.neutral_castTarget ht
  · cases hname

theorem neutral_writeBoolean (b : Bool) : Neutral d.profile (d.profile.writeBoolean b) := by
  cases d <;> cases b <;> decide

/-- A replacement is a literal, a cast literal, a number or a truth value. -/
theorem neutral_writeTypedLiteral (type : DataType) (value : String) :
    Neutral d.profile
      ((d.profile.writeTypedLiteral type value).orKeep (d.profile.quoteLiteral value)) := by
  have hq : Neutral d.profile (d.profile.quoteLiteral value) := neutral_quoteLiteral value
  unfold writeTypedLiteral
  dsimp only
  split_ifs with hnum hbare htemp hbool
  · exact neutral_of_isNumeral hbare
  · exact hq
  · have hc := neutral_writeCast_engine d type hq
    revert hc
    cases h : d.profile.writeCast (.engine type) (d.profile.quoteLiteral value) with
    | exact sql => exact id
    | approximate sql caveat => exact fun _ => hq
    | unsupported caveat => exact fun _ => hq
  · split
    · exact neutral_writeBoolean d true
    · exact neutral_writeBoolean d false
    · exact hq
  · exact hq

end Balanced

namespace Frame

/-- Frames around an expression, the innermost first. -/
def around (p : Profile) (e : String) (fs : List Frame) : String :=
  fs.foldl (fun sql f => f.fill p sql) e

variable {p : Profile}

@[simp] theorem around_nil (e : String) : around p e [] = e := rfl

@[simp] theorem around_cons (e : String) (f : Frame) (fs : List Frame) :
    around p e (f :: fs) = around p (f.fill p e) fs := rfl

@[simp] theorem around_append (e : String) (fs gs : List Frame) :
    around p e (fs ++ gs) = around p (around p e fs) gs := by
  simp [around]

theorem neutral_around {fs : List Frame} (hf : ∀ f ∈ fs, Balanced p f)
    (hpart : ∀ f ∈ fs, ∀ sql ∈ f.parts, Neutral p sql) {e : String} (he : Neutral p e) :
    Neutral p (around p e fs) := by
  induction fs generalizing e with
  | nil => exact he
  | cons f fs ih =>
    rw [List.forall_mem_cons] at hf hpart
    exact ih hf.2 hpart.2 (neutral_fill hf.1 hpart.1 he)

end Frame

theorem Progress.run_expression (p : Profile) (column : String) (g : Progress)
    (stages : List Stage) : (run p column g stages).expression =
      Frame.around p g.expression (stages.map (Stage.frame p)) := by
  induction stages generalizing g with
  | nil => rfl
  | cons s stages ih =>
    rw [List.map_cons, Frame.around_cons, Stage.fill_frame]
    exact ih (step p column g s)

/-- What a stage has to say, whatever it is applied to. -/
def Stage.notices (p : Profile) (column : String) (s : Stage) : List Diagnostic :=
  Progress.castNotice column s ++
    ((s.caveat? p).map fun c => Diagnostic.unsupported column c.message).toList

theorem Progress.run_diagnostics (p : Profile) (column : String) (g : Progress)
    (stages : List Stage) : (run p column g stages).diagnostics =
      g.diagnostics ++ stages.flatMap (Stage.notices p column) := by
  induction stages generalizing g with
  | nil => exact (List.append_nil _).symm
  | cons s stages ih =>
    have hstep : (step p column g s).diagnostics = g.diagnostics ++ s.notices p column := by
      simp only [step, take, Stage.notices, Stage.caveat?_write, List.append_assoc]
    rw [List.flatMap_cons, ← List.append_assoc, ← hstep]
    exact ih (step p column g s)

namespace Column

/-- The SQL that a column carries, without the blanks around it, whether or not it is used. -/
def verbatimTexts (c : Column) : List String :=
  Text.trim c.transformations.customExpression ::
    Text.trim c.transformations.whereFilter.condition ::
    c.transformations.conditional.cases.map fun one => Text.trim one.condition

section

variable (p : Profile) (c : Column)

def stageFrames : List Frame := c.transformations.stages.map (Stage.frame p)

def fillFrames : List Frame :=
  if c.transformations.nullStrategy = .replace then
    [Profile.coalesceFrame
      (p.replacementPiece c.replacementType c.transformations.nullReplacement)]
  else []

/-- Where there is nothing to be written otherwise, the value itself is. -/
def otherwisePiece : Piece :=
  if c.transformations.conditional.otherwise = "" then .hole
  else .literal c.transformations.conditional.otherwise

def caseFrames : List Frame :=
  if c.transformations.conditional.enabled then
    [Profile.casesFrame c.transformations.conditional.cases c.otherwisePiece]
  else []

def valueFrames : List Frame := c.stageFrames p ++ c.fillFrames p ++ c.caseFrames

/-- The frame of the cast comes last. -/
theorem stageFrames_eq : c.stageFrames p =
    c.transformations.textStages.map (Stage.frame p) ++
      (c.transformations.castRequest?.map p.castFrame).toList := by
  rw [stageFrames, Transformations.stages, List.map_append]
  cases c.transformations.castRequest? <;> rfl

theorem staged_expression :
    (c.staged p).expression = Frame.around p (c.startExpression p) (c.stageFrames p) := by
  rw [staged, Progress.run_expression, stageFrames]

theorem filled_expression :
    (c.filled p).expression = Frame.around p (c.staged p).expression (c.fillFrames p) := by
  unfold filled fillFrames
  split
  · rw [Frame.around_cons, Profile.fill_coalesceFrame, Profile.write_replacementPiece]
    rfl
  · rfl

theorem value_eq_around :
    c.value p = Frame.around p (c.startExpression p) (c.valueFrames p) := by
  rw [valueFrames, Frame.around_append, Frame.around_append, ← staged_expression,
    ← filled_expression]
  unfold value caseFrames
  dsimp only
  split
  · rw [Frame.around_cons, Profile.fill_casesFrame, otherwisePiece]
    split <;> rfl
  · rfl

theorem staged_diagnostics : (c.staged p).diagnostics =
    c.textNotice ++ c.transformations.stages.flatMap (Stage.notices p c.name) :=
  Progress.run_diagnostics p c.name _ _

theorem filled_diagnostics : (c.filled p).diagnostics = (c.staged p).diagnostics ++
    if c.transformations.nullStrategy = .replace then
      ((c.replacement p).caveat?.map fun v => Diagnostic.unsupported c.name v.message).toList
    else [] := by
  unfold filled
  split
  · rfl
  · exact (List.append_nil _).symm

end

section

variable (d : Dialect) (c : Column)

theorem replacementPiece_ne_text (p : Profile) (type : DataType) (value sql : String) :
    p.replacementPiece type value ≠ .text sql := by
  unfold Profile.replacementPiece
  split <;> nofun

theorem otherwisePiece_ne_text (sql : String) : c.otherwisePiece ≠ .text sql := by
  unfold otherwisePiece
  split <;> nofun

theorem balanced_stageFrames : ∀ f ∈ c.stageFrames d.profile, f.Balanced d.profile := by
  intro f hf
  obtain ⟨s, -, rfl⟩ := List.mem_map.mp hf
  exact s.balanced_frame d

/-- A value is made of the frames of its stages, a fallback and cases. -/
theorem mem_valueFrames {p : Profile} {f : Frame} (hf : f ∈ c.valueFrames p) :
    f ∈ c.stageFrames p ∨
      f = Profile.coalesceFrame
        (p.replacementPiece c.replacementType c.transformations.nullReplacement) ∨
      f = Profile.casesFrame c.transformations.conditional.cases c.otherwisePiece := by
  rw [valueFrames, List.mem_append, List.mem_append] at hf
  obtain (hf | hf) | hf := hf
  · exact .inl hf
  · unfold fillFrames at hf
    split at hf
    · exact .inr (.inl (List.mem_singleton.mp hf))
    · cases hf
  · unfold caseFrames at hf
    split at hf
    · exact .inr (.inr (List.mem_singleton.mp hf))
    · cases hf

theorem balanced_valueFrames : ∀ f ∈ c.valueFrames d.profile, f.Balanced d.profile := by
  intro f hf
  obtain hf | rfl | rfl := c.mem_valueFrames hf
  · exact c.balanced_stageFrames d f hf
  · exact balanced_coalesceFrame d (replacementPiece_ne_text _ _ _)
  · exact balanced_casesFrame d _ c.otherwisePiece_ne_text

theorem cast_not_mem_textStages {t : Transformations} (request : CastRequest) :
    .cast request ∉ t.textStages := by
  unfold Transformations.textStages CaseNormalization.stage?
  split_ifs <;> split <;> simp

/-- The text stages hold no cast, so a cast is the request of the column. -/
theorem castRequest?_of_mem_stages {t : Transformations} {request : CastRequest}
    (h : .cast request ∈ t.stages) : t.castRequest? = some request := by
  rw [Transformations.stages, List.mem_append] at h
  rcases h with h | h
  · exact absurd h (cast_not_mem_textStages request)
  · simpa using h

theorem castRequest?_verbatim {t : Transformations} {name : String}
    (h : t.castRequest? = some (.verbatim name)) :
    isTypeName name ∧ name = Text.trim t.typeCast := by
  unfold Transformations.castRequest? CastReading.of at h
  dsimp only at h
  split_ifs at h with hempty hname
  · cases h
  · split at h <;> cases h
    exact ⟨hname, rfl⟩
  · split at h <;> cases h

/-- The parts of the stages of a column are numbers, types of the dialect and plain type names. -/
theorem mem_stageParts {f : Frame} (hf : f ∈ c.stageFrames d.profile) {sql : String}
    (h : sql ∈ f.parts) : (∃ n : UInt64, sql = toString n) ∨
      (∃ type, d.profile.castTarget type = .type sql) ∨ isTypeName sql := by
  obtain ⟨s, hs, rfl⟩ := List.mem_map.mp hf
  obtain hn | htype | ⟨name, hname, htrim⟩ := Stage.mem_parts h
  · exact .inl hn
  · exact .inr (.inl htype)
  · obtain ⟨hplain, hcast⟩ := castRequest?_verbatim (castRequest?_of_mem_stages (hname ▸ hs))
    refine .inr (.inr ?_)
    rwa [htrim, hcast, Text.trim_trim, ← hcast]

theorem neutral_stagePart {f : Frame} (hf : f ∈ c.stageFrames d.profile) {sql : String}
    (h : sql ∈ f.parts) : Neutral d.profile sql := by
  obtain ⟨n, rfl⟩ | ⟨type, htype⟩ | hplain := c.mem_stageParts d hf h
  · exact neutral_toString _ n
  · exact d.neutral_castTarget htype
  · exact neutral_of_isTypeName hplain

theorem neutral_replacementPart {type : DataType} {value sql : String}
    (h : sql ∈ (Profile.coalesceFrame (d.profile.replacementPiece type value)).parts) :
    Neutral d.profile sql := by
  unfold Profile.replacementPiece at h
  split at h
  · cases h
  · rw [List.mem_singleton.mp h]
    exact neutral_writeTypedLiteral d _ _

/-- What the frames of a value do not look into is neutral, but for the conditions of its cases. -/
theorem neutral_or_verbatim {f : Frame} (hf : f ∈ c.valueFrames d.profile) {sql : String}
    (h : sql ∈ f.parts) : Neutral d.profile sql ∨ sql ∈ c.verbatimTexts := by
  obtain hf | rfl | rfl := c.mem_valueFrames hf
  · exact .inl (c.neutral_stagePart d hf h)
  · exact .inl (neutral_replacementPart d h)
  · rw [Profile.casesFrame] at h
    have hlast : sql ∉ Frame.parts [.text " ELSE ", c.otherwisePiece, .text " END"] := by
      unfold otherwisePiece
      split <;> exact List.not_mem_nil
    rw [Frame.mem_parts_cons, Frame.parts_append, List.mem_append] at h
    obtain h | h | h := h
    · cases h
    · rw [Frame.parts, List.filterMap_flatMap, List.mem_flatMap] at h
      obtain ⟨one, hone, h⟩ := h
      rw [List.mem_singleton.mp h]
      exact .inr (List.mem_cons_of_mem _ (List.mem_cons_of_mem _ (List.mem_map_of_mem hone)))
    · exact absurd h hlast

end

@[simp] theorem name_compile (d : Dialect) (c : Column) : (c.compile d).name = c.name := by
  unfold compile
  dsimp only
  split <;> rfl

theorem compile_of_sound {c : Column} (d : Dialect) (h : c.transformations.malformations = []) :
    c.compile d =
      { name := c.name
        expression := c.value d.profile
        rowFilter := conjunction? (c.predicates d.profile)
        flag := c.flag? d.profile
        diagnostics := (c.filled d.profile).diagnostics ++ c.flagNotice } := by
  unfold compile
  rw [h]
  rfl

end Column

end CleanSql
