import Mathlib.Algebra.BigOperators.Ring.List
import Mathlib.Algebra.GroupWithZero.Nat
import CleanSql.Proofs.Channels

/-!
# Start expressions

A frame is a row of texts with its expression between them (`Frame.fill_context`), and so are
frames around one another (`Frame.fill_plug`). The value, the flag and the test of a column are
frames that know nothing of the expression they start from: it is written into fixed texts, again
and again where a dialect needs it, and looked at nowhere (`Column.carries_startExpression`).
-/
namespace CleanSql

/-- Texts between which an expression is written: the first, and those behind each place of the
expression. -/
structure TextContext where
  first : String
  rest : List String
  deriving DecidableEq, Repr

namespace TextContext

def fill (t : TextContext) (e : String) : String := String.intercalate e (t.first :: t.rest)

def places (t : TextContext) : Nat := t.rest.length

def behind (sql : String) (t : TextContext) : TextContext := { t with first := sql ++ t.first }

def behindPlace (t : TextContext) : TextContext := ⟨"", t.first :: t.rest⟩

theorem fill_behind (sql : String) (t : TextContext) (e : String) :
    (t.behind sql).fill e = sql ++ t.fill e := String.intercalate_cons_append

theorem fill_behindPlace (t : TextContext) (e : String) : t.behindPlace.fill e = e ++ t.fill e := by
  rw [fill, behindPlace, String.intercalate_cons_cons, String.empty_append, fill]

end TextContext

namespace Frame

variable {p : Profile}

def places (f : Frame) : Nat := f.count .hole

theorem places_cons_hole (f : Frame) : places (.hole :: f) = f.places + 1 := List.count_cons_self

theorem places_cons_of_ne {q : Piece} (h : q ≠ .hole) (f : Frame) : places (q :: f) = f.places :=
  List.count_cons_of_ne h

theorem places_append (f g : Frame) : places (f ++ g) = f.places + g.places := List.count_append

/-- The frame as texts; only its expression is left open. -/
def context (p : Profile) : Frame → TextContext
  | [] => ⟨"", []⟩
  | .hole :: f => (context p f).behindPlace
  | q :: f => (context p f).behind (q.write p "")

theorem fill_context (f : Frame) (e : String) : (f.context p).fill e = f.fill p e := by
  induction f with
  | nil => exact String.intercalate_singleton
  | cons q f ih =>
    cases q with
    | hole => rw [context, TextContext.fill_behindPlace, ih, fill_cons, Piece.write]
    | text sql | literal value | part sql =>
      rw [context, TextContext.fill_behind, ih, fill_cons]
      · rfl
      · simp

theorem places_context (f : Frame) : (f.context p).places = f.places := by
  induction f with
  | nil => rfl
  | cons q f ih =>
    cases q with
    | hole =>
      rw [places_cons_hole, ← ih]
      rfl
    | text sql | literal value | part sql =>
      rw [places_cons_of_ne (by simp), ← ih]
      rfl

/-- A frame in the place of the expression of another. -/
def plug (f g : Frame) : Frame := g.flatMap fun q => if q = .hole then f else [q]

theorem fill_plug (f g : Frame) (e : String) : (f.plug g).fill p e = g.fill p (f.fill p e) := by
  induction g with
  | nil => rfl
  | cons q g ih =>
    rw [plug, List.flatMap_cons, fill_append, ← plug, ih, fill_cons]
    split_ifs with h
    · rw [h, Piece.write]
    · rw [fill_cons, fill_nil, String.append_empty]
      cases q with
      | hole => exact absurd rfl h
      | text _ | literal _ | part _ => rfl

theorem places_plug (f g : Frame) : (f.plug g).places = f.places * g.places := by
  induction g with
  | nil => rfl
  | cons q g ih =>
    rw [plug, List.flatMap_cons, places_append, ← plug, ih]
    by_cases h : q = .hole
    · rw [if_pos h, h, places_cons_hole, Nat.mul_succ, Nat.add_comm]
    · rw [if_neg h, places_cons_of_ne h, places_cons_of_ne h]
      exact Nat.zero_add _

/-- All frames around an expression as one, the innermost first. -/
def join (fs : List Frame) : Frame := fs.foldl plug [.hole]

theorem fill_foldl_plug (fs : List Frame) (f : Frame) (e : String) :
    (fs.foldl plug f).fill p e = around p (f.fill p e) fs := by
  induction fs generalizing f with
  | nil => rfl
  | cons g fs ih => rw [List.foldl_cons, ih, fill_plug, around_cons]

theorem fill_join (fs : List Frame) (e : String) : (join fs).fill p e = around p e fs := by
  rw [join, fill_foldl_plug, fill_cons, fill_nil, String.append_empty, Piece.write]

theorem places_foldl_plug (fs : List Frame) (f : Frame) :
    (fs.foldl plug f).places = f.places * (fs.map places).prod := by
  induction fs generalizing f with
  | nil => rw [List.foldl_nil, List.map_nil, List.prod_nil, Nat.mul_one]
  | cons g fs ih =>
    rw [List.foldl_cons, ih, places_plug, List.map_cons, List.prod_cons, Nat.mul_assoc]

/-- The expression is in there as often as the frames have it one after the other. -/
theorem places_join (fs : List Frame) : (join fs).places = (fs.map places).prod := by
  rw [join, places_foldl_plug]
  exact Nat.one_mul _

theorem places_join_pos_iff (fs : List Frame) : 0 < (join fs).places ↔ ∀ f ∈ fs, f.hasHole := by
  rw [places_join, Nat.pos_iff_ne_zero, Ne, List.prod_eq_zero_iff, List.mem_map]
  simp only [hasHole_iff, places, List.count_eq_zero, not_exists, not_and, not_not]

end Frame

namespace Column

section Value

variable (c : Column)

theorem hasHole_stageFrames (d : Dialect) : ∀ f ∈ c.stageFrames d.profile, f.hasHole := by
  intro f hf
  obtain ⟨s, -, rfl⟩ := List.mem_map.mp hf
  exact s.hasHole_frame d

theorem hasHole_fillFrames (p : Profile) : ∀ f ∈ c.fillFrames p, f.hasHole := by
  intro f hf
  unfold fillFrames at hf
  split at hf
  · rw [List.mem_singleton.mp hf]
    rfl
  · cases hf

/-- Cases leave nothing of the value where something else is written if none of them applies. -/
theorem hasHole_caseFrames_iff : (∀ f ∈ c.caseFrames, f.hasHole) ↔
    ¬ (c.transformations.conditional.enabled ∧ c.transformations.conditional.otherwise ≠ "") := by
  have hcases (cases : List ConditionalCase) : .hole ∉ cases.flatMap Profile.caseFrame := by
    simp [Profile.caseFrame]
  unfold caseFrames
  split_ifs with h
  · rw [List.forall_mem_singleton, Frame.hasHole_iff, Profile.casesFrame, otherwisePiece]
    split_ifs with hempty <;> simp [h, hempty, hcases]
  · simp [h]

theorem hasHole_valueFrames_iff (d : Dialect) : (∀ f ∈ c.valueFrames d.profile, f.hasHole) ↔
    ¬ (c.transformations.conditional.enabled ∧ c.transformations.conditional.otherwise ≠ "") := by
  rw [← hasHole_caseFrames_iff, valueFrames, List.forall_mem_append, List.forall_mem_append]
  exact and_iff_right ⟨c.hasHole_stageFrames d, c.hasHole_fillFrames d.profile⟩

end Value

section Contexts

variable (d : Dialect) (c : Column)

def valueContext : TextContext := (Frame.join (c.valueFrames d.profile)).context d.profile

/-- What is written around the start expression in a frame around all stages. -/
def stagedContext (f : Frame) : TextContext :=
  (Frame.join (c.stageFrames d.profile ++ [f])).context d.profile

theorem fill_valueContext (e : String) :
    (c.valueContext d).fill e = Frame.around d.profile e (c.valueFrames d.profile) := by
  rw [valueContext, Frame.fill_context, Frame.fill_join]

theorem fill_stagedContext (f : Frame) (e : String) : (c.stagedContext d f).fill e =
    f.fill d.profile (Frame.around d.profile e (c.stageFrames d.profile)) := by
  rw [stagedContext, Frame.fill_context, Frame.fill_join, Frame.around_append]
  rfl

theorem places_valueContext_pos_iff : 0 < (c.valueContext d).places ↔
    ¬ (c.transformations.conditional.enabled ∧ c.transformations.conditional.otherwise ≠ "") := by
  rw [valueContext, Frame.places_context, Frame.places_join_pos_iff, hasHole_valueFrames_iff]

theorem places_stagedContext_pos {f : Frame} (hf : f.hasHole) :
    0 < (c.stagedContext d f).places := by
  rw [stagedContext, Frame.places_context, Frame.places_join_pos_iff, List.forall_mem_append]
  exact ⟨c.hasHole_stageFrames d, List.forall_mem_singleton.mpr hf⟩

variable {d c}

theorem value_eq_fill :
    c.value d.profile = (c.valueContext d).fill (c.startExpression d.profile) := by
  rw [fill_valueContext, value_eq_around]

theorem flag?_eq_fill (h : c.transformations.nullStrategy = .flag) : c.flag? d.profile =
    some ⟨flagName c.name,
      (c.stagedContext d d.profile.nullFlagFrame).fill (c.startExpression d.profile)⟩ := by
  rw [flag?, if_pos h, fill_stagedContext, Profile.fill_nullFlagFrame, staged_expression]

theorem predicates_eq_fill (h : c.transformations.nullStrategy = .drop)
    (hcustom : Text.trim c.transformations.customExpression ≠ "") : c.predicates d.profile =
      (c.stagedContext d Profile.notNullFrame).fill (c.startExpression d.profile) ::
        c.transformations.whereFilter.predicate?.toList := by
  have hsome : c.transformations.customExpression?.isSome := by
    rw [Transformations.customExpression?, if_neg hcustom]
    rfl
  rw [fill_stagedContext, Profile.fill_notNullFrame, ← staged_expression, predicates, if_pos h,
    dropPredicate, if_pos hsome, WhereFilter.predicate?]
  split_ifs <;> rfl

end Contexts

end Column

/-- The settings that no frame of a column hangs on. -/
def Setting.ofStart : List Setting := [.name, .nullable, .notes, .customExpression]

namespace Column

section Agreement

variable {d : Dialect} {c c' : Column}

theorem AgreeBut.malformations (h : c.AgreeBut Setting.ofStart c') :
    c'.transformations.malformations = c.transformations.malformations := by
  have hsplit : c.transformations.delimiterSplit = c'.transformations.delimiterSplit :=
    h .delimiterSplit (by decide)
  have hregex : c.transformations.regex = c'.transformations.regex := h .regex (by decide)
  have hcases : c.transformations.conditional = c'.transformations.conditional :=
    h .conditional (by decide)
  have hfilter : c.transformations.whereFilter = c'.transformations.whereFilter :=
    h .whereFilter (by decide)
  have hcast : c.transformations.typeCast = c'.transformations.typeCast := h .typeCast (by decide)
  rw [Transformations.malformations, Transformations.malformations, hsplit, hregex, hcases,
    hfilter, hcast]

theorem AgreeBut.stagedContext (h : c.AgreeBut Setting.ofStart c') (f : Frame) :
    c'.stagedContext d f = c.stagedContext d f := by
  rw [Column.stagedContext, Column.stagedContext, stageFrames, stageFrames, h.stages (by decide)]

theorem AgreeBut.valueContext (h : c.AgreeBut Setting.ofStart c') :
    c'.valueContext d = c.valueContext d := by
  have hstrategy : c.transformations.nullStrategy = c'.transformations.nullStrategy :=
    h .nullStrategy (by decide)
  have hfill : c.fillFrames d.profile = c'.fillFrames d.profile :=
    h.fillFrames (by decide) (by decide) (by decide) (by rw [hstrategy])
  rw [Column.valueContext, Column.valueContext, valueFrames, valueFrames, hfill,
    h.caseFrames (by decide), stageFrames, stageFrames, h.stages (by decide)]

end Agreement

/-- A column in order has texts for its value, its flag and its test for missing values that do not
hang on its custom expression, nor on its name: the start expression is written between them. It is
in the value unless there are cases with another text for when none of them applies, and in the flag
and the test always. Without a custom expression, the column's name stands in for it in value and
flag. -/
theorem carries_startExpression (d : Dialect) (c : Column)
    (h : ¬ ∃ m, c.transformations.Violates m) :
    ∃ value flag test : TextContext,
      (0 < value.places ↔ ¬ (c.transformations.conditional.enabled ∧
        c.transformations.conditional.otherwise ≠ "")) ∧
      0 < flag.places ∧ 0 < test.places ∧
      ∀ c', c.AgreeBut [.name, .nullable, .notes, .customExpression] c' → ∀ e,
        e = (if Text.trim c'.transformations.customExpression = "" then
          d.profile.quoteIdentifier c'.name else Text.trim c'.transformations.customExpression) →
        (c'.compile d).expression = value.fill e ∧
        (c'.transformations.nullStrategy = .flag →
          (c'.compile d).flag = some ⟨flagName c'.name, flag.fill e⟩) ∧
        (c'.transformations.nullStrategy = .drop →
          Text.trim c'.transformations.customExpression ≠ "" →
          (c'.compile d).rowFilter = conjoin?
            ((test.fill e :: c'.transformations.whereFilter.predicate?.toList).map inParens)) := by
  refine ⟨c.valueContext d, c.stagedContext d d.profile.nullFlagFrame,
    c.stagedContext d Profile.notNullFrame, c.places_valueContext_pos_iff d,
    c.places_stagedContext_pos d (by cases d <;> rfl), c.places_stagedContext_pos d rfl,
    fun c' hc e he => ?_⟩
  have hstart : e = c'.startExpression d.profile := by
    rw [he, startExpression, Transformations.customExpression?]
    split_ifs <;> rfl
  rw [compile_of_sound d (hc.malformations.trans (Transformations.not_violates_iff.mp h)), hstart]
  refine ⟨?_, fun hflag => ?_, fun hdrop hcustom => ?_⟩
  · exact hc.valueContext ▸ value_eq_fill
  · exact hc.stagedContext _ ▸ flag?_eq_fill hflag
  · rw [← hc.stagedContext, ← predicates_eq_fill hdrop hcustom]
    exact conjunction?_eq _

theorem carries_startExpression_fullColumn :
    (∃ value flag : TextContext, 0 < value.places ∧ 0 < flag.places ∧
      ((fullColumn "f(c)" .flag).compile .mysql).expression = value.fill "f(c)" ∧
      ((fullColumn "" .flag).compile .mysql).expression = value.fill "\x60c\x60" ∧
      ((fullColumn "f(c)" .flag).compile .mysql).flag = some ⟨"c_is_null", flag.fill "f(c)"⟩ ∧
      ((fullColumn "" .flag).compile .mysql).flag = some ⟨"c_is_null", flag.fill "\x60c\x60"⟩) ∧
    ∃ test : TextContext, 0 < test.places ∧
      ((fullColumn "f(c)" .drop).compile .mysql).rowFilter =
        conjoin? [inParens (test.fill "f(c)"), inParens "c <> ''"] := by
  constructor
  · obtain ⟨value, flag, _, hvalue, hflag, -, hfill⟩ :=
      carries_startExpression .mysql (fullColumn "f(c)" .flag) (by decide +kernel)
    have hcustom := hfill (fullColumn "f(c)" .flag) (by decide) "f(c)" (by decide)
    have hplain := hfill (fullColumn "" .flag) (by decide) "\x60c\x60" (by decide)
    exact ⟨value, flag, hvalue.mpr (by decide), hflag, hcustom.1, hplain.1,
      hcustom.2.1 (by decide), hplain.2.1 (by decide)⟩
  · obtain ⟨_, _, test, -, -, htest, hfill⟩ :=
      carries_startExpression .mysql (fullColumn "f(c)" .drop) (by decide +kernel)
    have hcustom := hfill (fullColumn "f(c)" .drop) (by decide) "f(c)" (by decide)
    exact ⟨test, htest, hcustom.2.2 (by decide) (by decide)⟩

end Column

end CleanSql
