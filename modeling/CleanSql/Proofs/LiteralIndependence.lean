import Mathlib.Data.List.Forall2
import CleanSql.Proofs.Frame.Column

/-!
# Literals do not show

Two columns that differ in nothing but what is written inside of literals are compiled to SQL of
the same skeleton, and the same is said about them. Both are compared with the column that they
become when their literals are emptied (`Column.blank`).
-/
namespace CleanSql

namespace Stage

def blank : Stage → Stage
  | split _ index => split "" index
  | regex _ _ => regex "" ""
  | s => s

theorem blank_frame (p : Profile) (s : Stage) : (s.blank.frame p).blank = (s.frame p).blank := by
  cases s with
  | trim | upper | lower | title | strip | cast _ => rfl
  | split delimiter index =>
    simp only [blank, frame, Profile.splitFrame]
    cases p.split.base?.elim (some index) (·.native? index) with
    | none => rfl
    | some native => cases p.split <;> rfl
  | regex pattern replacement =>
    simp only [blank, frame, Profile.regexFrame]
    cases p.regex <;> rfl

theorem blank_notices (p : Profile) (column : String) (s : Stage) :
    s.blank.notices p column = s.notices p column := by
  cases s <;> rfl

theorem blank_setting (s : Stage) : s.blank.setting = s.setting := by
  cases s <;> rfl

end Stage

namespace Transformations

/-- The transforms without what is written inside of literals: patterns, replacements of matches,
delimiters, results of cases, and the replacement of missing values if that is a literal. Of what
is written otherwise it is kept whether there is anything. -/
def blank (textual : Bool) (t : Transformations) : Transformations :=
  { t with
    regex := { t.regex with pattern := "", replacement := "" }
    delimiterSplit := { t.delimiterSplit with delimiter := "" }
    conditional :=
      { t.conditional with
        cases := t.conditional.cases.map fun one => { one with result := "" }
        otherwise := if t.conditional.otherwise = "" then "" else "otherwise" }
    nullReplacement := if textual then "" else t.nullReplacement }

variable (textual : Bool) (t : Transformations)

theorem blank_customExpression : (t.blank textual).customExpression? = t.customExpression? := rfl

theorem blank_castRequest : (t.blank textual).castRequest? = t.castRequest? := rfl

theorem blank_textStages : (t.blank textual).textStages = t.textStages.map Stage.blank := by
  have hcase : t.caseNormalization.stage?.toList.map Stage.blank =
      t.caseNormalization.stage?.toList := by
    cases t.caseNormalization <;> rfl
  simp only [textStages, List.map_append, apply_ite (List.map Stage.blank), hcase]
  rfl

theorem blank_stages : (t.blank textual).stages = t.stages.map Stage.blank := by
  have hcast : (t.castRequest?.map Stage.cast).toList.map Stage.blank =
      (t.castRequest?.map Stage.cast).toList := by
    cases t.castRequest? <;> rfl
  rw [stages, stages, blank_textStages, blank_castRequest, List.map_append, hcast]

end Transformations

namespace Column

def blank (c : Column) : Column :=
  { c with transformations := c.transformations.blank (Profile.isTextual c.replacementType) }

variable (p : Profile) (c : Column)

@[simp] theorem blank_name : c.blank.name = c.name := by rw [blank]

@[simp] theorem blank_dataType : c.blank.dataType = c.dataType := by rw [blank]

@[simp] theorem blank_transformations : c.blank.transformations =
    c.transformations.blank (Profile.isTextual c.replacementType) := by rw [blank]

theorem blank_nullStrategy :
    c.blank.transformations.nullStrategy = c.transformations.nullStrategy := by
  rw [blank_transformations, Transformations.blank]

theorem blank_whereFilter :
    c.blank.transformations.whereFilter = c.transformations.whereFilter := by
  rw [blank_transformations, Transformations.blank]

theorem blank_customExpression : c.blank.transformations.customExpression? =
    c.transformations.customExpression? := by
  rw [blank_transformations, Transformations.blank_customExpression]

theorem blank_replacementType : c.blank.replacementType = c.replacementType := by
  unfold replacementType
  rw [blank_transformations, Transformations.blank_castRequest, blank_dataType]

theorem blank_reference : c.blank.reference p = c.reference p := by
  rw [reference, reference, blank_name]

theorem blank_startExpression : c.blank.startExpression p = c.startExpression p := by
  rw [startExpression, startExpression, blank_reference, blank_customExpression]

theorem blank_verbatimTexts : c.blank.verbatimTexts = c.verbatimTexts := by
  simp [verbatimTexts, Transformations.blank]

theorem blank_stageFrames :
    (c.blank.stageFrames p).map Frame.blank = (c.stageFrames p).map Frame.blank := by
  rw [stageFrames, stageFrames, blank_transformations, Transformations.blank_stages, List.map_map,
    List.map_map, List.map_map]
  exact List.map_congr_left fun s _ => s.blank_frame p

theorem blank_fillFrames :
    (c.blank.fillFrames p).map Frame.blank = (c.fillFrames p).map Frame.blank := by
  have hpiece : (p.replacementPiece c.blank.replacementType
      c.blank.transformations.nullReplacement).blank =
      (p.replacementPiece c.replacementType c.transformations.nullReplacement).blank := by
    rw [blank_replacementType, blank_transformations, Transformations.blank]
    unfold Profile.replacementPiece
    split_ifs <;> rfl
  unfold fillFrames
  rw [blank_nullStrategy]
  split
  · simp only [List.map_cons, List.map_nil, Profile.coalesceFrame, Frame.blank, hpiece]
  · rfl

theorem blank_caseFrames : c.blank.caseFrames.map Frame.blank = c.caseFrames.map Frame.blank := by
  have henabled : c.blank.transformations.conditional.enabled =
      c.transformations.conditional.enabled := by
    rw [blank_transformations, Transformations.blank]
  have hcases :
      (c.blank.transformations.conditional.cases.flatMap Profile.caseFrame).map Piece.blank =
        (c.transformations.conditional.cases.flatMap Profile.caseFrame).map Piece.blank := by
    rw [blank_transformations, Transformations.blank, List.flatMap_map, List.map_flatMap,
      List.map_flatMap]
    rfl
  have hother : c.blank.otherwisePiece.blank = c.otherwisePiece.blank := by
    unfold otherwisePiece
    rw [blank_transformations, Transformations.blank]
    by_cases h : c.transformations.conditional.otherwise = ""
    · simp [h]
    · simp [h, Piece.blank]
  unfold caseFrames
  rw [henabled]
  split
  · simp only [List.map_cons, List.map_nil, Profile.casesFrame, Frame.blank, List.map_append,
      hcases, hother]
  · rfl

theorem blank_valueFrames :
    (c.blank.valueFrames p).map Frame.blank = (c.valueFrames p).map Frame.blank := by
  simp only [valueFrames, List.map_append, blank_stageFrames, blank_fillFrames, blank_caseFrames]

theorem blank_textNotice : c.blank.textNotice = c.textNotice := by
  have hsettings : c.blank.transformations.textStages.map Stage.setting =
      c.transformations.textStages.map Stage.setting := by
    rw [blank_transformations, Transformations.blank_textStages, List.map_map]
    exact List.map_congr_left fun s _ => s.blank_setting
  unfold textNotice
  rw [hsettings, blank_customExpression, blank_name, blank_dataType]

theorem blank_staged_diagnostics :
    (c.blank.staged p).diagnostics = (c.staged p).diagnostics := by
  rw [staged_diagnostics, staged_diagnostics, blank_textNotice, blank_name, blank_transformations,
    Transformations.blank_stages, List.flatMap_map]
  exact congrArg _ (List.flatMap_congr fun s _ => s.blank_notices p c.name)

theorem caveat?_writeTypedLiteral {type : DataType} (h : Profile.isTextual type) (value : String) :
    (p.writeTypedLiteral type value).caveat? = none := by
  cases type with
  | string | json => rfl
  | _ => cases h

theorem blank_filled_diagnostics :
    (c.blank.filled p).diagnostics = (c.filled p).diagnostics := by
  have hcaveat : (c.blank.replacement p).caveat? = (c.replacement p).caveat? := by
    unfold replacement
    rw [blank_replacementType, blank_transformations, Transformations.blank]
    dsimp only
    split_ifs with ht
    · rw [caveat?_writeTypedLiteral p ht, caveat?_writeTypedLiteral p ht]
    · rfl
  rw [filled_diagnostics, filled_diagnostics, blank_staged_diagnostics, hcaveat,
    blank_nullStrategy, blank_name]

theorem blank_flagNotice : c.blank.flagNotice = c.flagNotice := by
  rw [flagNotice, flagNotice, blank_nullStrategy, blank_name]

end Column

namespace Alike

variable {p : Profile}

theorem trans {a b c : String} (hab : Alike p a b) (hbc : Alike p b c) : Alike p a c :=
  ⟨hab.closed, hab.run_eq.trans hbc.run_eq, hab.trail_eq.trans hbc.trail_eq⟩

theorem around {fs gs : List Frame} (hf : ∀ f ∈ fs, f.Balanced p) (hg : ∀ g ∈ gs, g.Balanced p)
    (hfg : fs.map Frame.blank = gs.map Frame.blank)
    (hfpart : ∀ f ∈ fs, ∀ sql ∈ f.parts, Closed p sql)
    (hgpart : ∀ g ∈ gs, ∀ sql ∈ g.parts, Closed p sql) {a b : String} (hab : Alike p a b) :
    Alike p (Frame.around p a fs) (Frame.around p b gs) := by
  induction fs generalizing gs a b with
  | nil =>
    rw [List.map_nil, eq_comm, List.map_eq_nil_iff] at hfg
    rw [hfg]
    exact hab
  | cons f fs ih =>
    cases gs with
    | nil => cases hfg
    | cons g gs =>
      rw [List.forall_mem_cons] at hf hg hfpart hgpart
      obtain ⟨hhead, htail⟩ := List.cons.inj hfg
      exact ih hf.2 hg.2 htail hfpart.2 hgpart.2
        (Frame.alike_fill hf.1 hg.1 hhead hfpart.1 hgpart.1 hab)

theorem append {sep : String} (hleft : ∀ r, Frame.Balanced p [.hole, .text sep, .part r])
    (hright : ∀ b, Frame.Balanced p [.part b, .text sep, .hole]) {a b r s : String}
    (hab : Alike p a b) (hrs : Alike p r s) : Alike p (a ++ sep ++ r) (b ++ sep ++ s) := by
  have hfirst : Alike p (a ++ sep ++ r) (b ++ sep ++ r) := by
    have hr : ∀ sql ∈ Frame.parts [.hole, .text sep, .part r], Closed p sql := by
      intro sql hsql
      rw [List.mem_singleton.mp hsql]
      exact hrs.closed
    -- First the left text changes, with the right one as a part, and then the other way round.
    have hfill := Frame.alike_fill (hleft r) (hleft r) rfl hr hr hab
    simpa [Piece.write, String.append_assoc] using hfill
  have hsecond : Alike p (b ++ sep ++ r) (b ++ sep ++ s) := by
    have hb : ∀ sql ∈ Frame.parts [.part b, .text sep, .hole], Closed p sql := by
      intro sql hsql
      rw [List.mem_singleton.mp hsql]
      exact hab.symm.closed
    have hfill := Frame.alike_fill (hright b) (hright b) rfl hb hb hrs
    simpa [Piece.write, String.append_assoc] using hfill
  exact hfirst.trans hsecond

theorem intercalate {sep : String} (hleft : ∀ r, Frame.Balanced p [.hole, .text sep, .part r])
    (hright : ∀ b, Frame.Balanced p [.part b, .text sep, .hole]) {l m : List String}
    (h : List.Forall₂ (Alike p) l m) :
    Alike p (String.intercalate sep l) (String.intercalate sep m) := by
  induction h with
  | nil =>
    rw [String.intercalate_nil]
    exact .refl rfl
  | cons hab h ih =>
    cases h with
    | nil =>
      rw [String.intercalate_singleton, String.intercalate_singleton]
      exact hab
    | cons hcd h =>
      rw [String.intercalate_cons_cons, String.intercalate_cons_cons]
      exact append hleft hright hab ih

end Alike

theorem skeleton_conjunction (d : Dialect) {l m : List String}
    (h : List.Forall₂ (Alike d.profile) l m) :
    (conjunction? l).map (skeleton d.profile) = (conjunction? m).map (skeleton d.profile) := by
  cases h with
  | nil => rfl
  | cons hab h =>
    refine congrArg some (Alike.skeleton_eq (Alike.intercalate (fun r => (balanced_and d r).2)
      (fun b => (balanced_and d b).1) (List.rel_map (fun a b hab => ?_) (.cons hab h))))
    have hfill := Frame.alike_fill (balanced_parenFrame d) (balanced_parenFrame d) rfl
      (List.forall_mem_nil _) (List.forall_mem_nil _) hab
    rw [Profile.fill_parenFrame, Profile.fill_parenFrame] at hfill
    exact hfill

namespace Column

section

variable {d : Dialect} {c c' : Column}

theorem closed_valuePart (h : ∀ s ∈ c.verbatimTexts, Closed d.profile s) {f : Frame}
    (hf : f ∈ c.valueFrames d.profile) {sql : String} (hsql : sql ∈ f.parts) :
    Closed d.profile sql :=
  (c.neutral_or_verbatim d hf hsql).elim Neutral.closed (h sql)

theorem closed_startExpression (h : ∀ s ∈ c.verbatimTexts, Closed d.profile s) :
    Closed d.profile (c.startExpression d.profile) := by
  unfold startExpression Transformations.customExpression?
  dsimp only
  split
  · exact closed_quoteIdentifier c.name
  · exact h _ List.mem_cons_self

theorem verbatimTexts_of_blank_eq (h : c.blank = c'.blank) :
    c.verbatimTexts = c'.verbatimTexts := by
  rw [← blank_verbatimTexts c, h, blank_verbatimTexts]

theorem startExpression_of_blank_eq (p : Profile) (h : c.blank = c'.blank) :
    c.startExpression p = c'.startExpression p := by
  rw [← blank_startExpression, h, blank_startExpression]

theorem alike_value (h : c.blank = c'.blank) (hclosed : ∀ s ∈ c.verbatimTexts, Closed d.profile s) :
    Alike d.profile (c.value d.profile) (c'.value d.profile) := by
  have hclosed' := hclosed
  rw [verbatimTexts_of_blank_eq h] at hclosed'
  rw [value_eq_around, value_eq_around, ← startExpression_of_blank_eq _ h]
  refine Alike.around (c.balanced_valueFrames d) (c'.balanced_valueFrames d) ?_
    (fun f hf sql => closed_valuePart hclosed hf) (fun f hf sql => closed_valuePart hclosed' hf)
    (.refl (closed_startExpression hclosed))
  rw [← blank_valueFrames, h, blank_valueFrames]

theorem alike_staged (h : c.blank = c'.blank)
    (hclosed : ∀ s ∈ c.verbatimTexts, Closed d.profile s) :
    Alike d.profile (c.staged d.profile).expression (c'.staged d.profile).expression := by
  rw [staged_expression, staged_expression, ← startExpression_of_blank_eq _ h]
  refine Alike.around (c.balanced_stageFrames d) (c'.balanced_stageFrames d) ?_
    (fun f hf sql hsql => (c.neutral_stagePart d hf hsql).closed)
    (fun f hf sql hsql => (c'.neutral_stagePart d hf hsql).closed)
    (.refl (closed_startExpression hclosed))
  rw [← blank_stageFrames, h, blank_stageFrames]

theorem alike_dropPredicate (h : c.blank = c'.blank)
    (hclosed : ∀ s ∈ c.verbatimTexts, Closed d.profile s) :
    Alike d.profile (c.dropPredicate d.profile) (c'.dropPredicate d.profile) := by
  have hcustom : c.transformations.customExpression? = c'.transformations.customExpression? := by
    rw [← blank_customExpression, h, blank_customExpression]
  have hname : c.reference d.profile = c'.reference d.profile := by
    rw [← blank_reference, h, blank_reference]
  rw [dropPredicate, dropPredicate, ← hcustom, ← hname, ← Profile.fill_notNullFrame,
    ← Profile.fill_notNullFrame]
  refine Frame.alike_fill (balanced_notNullFrame d) (balanced_notNullFrame d) rfl
    (List.forall_mem_nil _) (List.forall_mem_nil _) ?_
  split
  · exact alike_staged h hclosed
  · exact .refl (closed_quoteIdentifier c.name)

theorem alike_predicates (h : c.blank = c'.blank)
    (hclosed : ∀ s ∈ c.verbatimTexts, Closed d.profile s) :
    List.Forall₂ (Alike d.profile) (c.predicates d.profile) (c'.predicates d.profile) := by
  have hstrategy : c.transformations.nullStrategy = c'.transformations.nullStrategy := by
    rw [← blank_nullStrategy, h, blank_nullStrategy]
  have hfilter : c.transformations.whereFilter = c'.transformations.whereFilter := by
    rw [← blank_whereFilter, h, blank_whereFilter]
  unfold predicates
  rw [← hstrategy, ← hfilter]
  refine List.rel_append ?_ ?_
  · split
    · exact .cons (alike_dropPredicate h hclosed) .nil
    · exact .nil
  · split
    · exact .cons (.refl (hclosed _ (List.mem_cons_of_mem _ List.mem_cons_self))) .nil
    · exact .nil

theorem skeleton_flag (h : c.blank = c'.blank)
    (hclosed : ∀ s ∈ c.verbatimTexts, Closed d.profile s) :
    (c.flag? d.profile).map (fun flag => skeleton d.profile flag.expression) =
      (c'.flag? d.profile).map fun flag => skeleton d.profile flag.expression := by
  have hstrategy : c.transformations.nullStrategy = c'.transformations.nullStrategy := by
    rw [← blank_nullStrategy, h, blank_nullStrategy]
  unfold flag?
  rw [← hstrategy]
  split
  · have hparts : ∀ sql ∈ d.profile.nullFlagFrame.parts, Closed d.profile sql := by
      unfold Profile.nullFlagFrame
      split <;> nofun
    have hfill := Frame.alike_fill (balanced_nullFlagFrame d) (balanced_nullFlagFrame d) rfl hparts
      hparts (alike_staged h hclosed)
    rw [Profile.fill_nullFlagFrame, Profile.fill_nullFlagFrame] at hfill
    exact congrArg some hfill.skeleton_eq
  · rfl

end

/-- Two well-formed columns that differ in their literals only, and whose own SQL closes its
quotes, have outputs of the same skeletons and the same diagnostics. -/
theorem skeleton_compile (d : Dialect) (c c' : Column) (h : c.blank = c'.blank)
    (hc : c.transformations.malformations = []) (hc' : c'.transformations.malformations = [])
    (hclosed : ∀ s ∈ c.verbatimTexts, Closed d.profile s) :
    skeleton d.profile (c.compile d).expression = skeleton d.profile (c'.compile d).expression ∧
    (c.compile d).rowFilter.map (skeleton d.profile) =
      (c'.compile d).rowFilter.map (skeleton d.profile) ∧
    (c.compile d).flag.map (fun flag => skeleton d.profile flag.expression) =
      (c'.compile d).flag.map (fun flag => skeleton d.profile flag.expression) ∧
    (c.compile d).diagnostics = (c'.compile d).diagnostics := by
  simp only [compile, hc, hc', List.isEmpty_nil, if_true]
  refine ⟨(alike_value h hclosed).skeleton_eq, skeleton_conjunction d (alike_predicates h hclosed),
    skeleton_flag h hclosed, ?_⟩
  rw [← blank_filled_diagnostics, ← blank_flagNotice, h, blank_filled_diagnostics,
    blank_flagNotice]

/-- A column with the same text in all of its literals. -/
def literalsColumn (text : String) : Column where
  name := "c"
  transformations :=
    { nullStrategy := .replace
      nullReplacement := text
      regex := { enabled := true, pattern := text, replacement := text }
      whereFilter := { enabled := true, condition := "c <> ''''" }
      conditional :=
        { enabled := true, cases := [{ condition := "c = '('", result := text }] }
      delimiterSplit := { enabled := true, delimiter := text, index := 1 }
      customExpression := "CONCAT(c, '\\'')" }

theorem skeleton_compile_literalsColumn :
    skeleton .mysql ((literalsColumn "x").compile .mysql).expression =
      skeleton .mysql ((literalsColumn "' \\ --").compile .mysql).expression :=
  (skeleton_compile .mysql (literalsColumn "x") (literalsColumn "' \\ --") (by decide) (by decide)
    (by decide) (by decide)).1

end Column

end CleanSql
