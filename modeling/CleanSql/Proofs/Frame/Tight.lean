import CleanSql.Proofs.Frame.Column

/-!
# Blanks at the ends of a value

A frame that begins and ends with characters that are not blank, or with its expression, puts no
blanks at the ends of an expression (`Frame.isTight_fill`). All frames of a column are like that,
and so no value begins or ends with a blank (`Column.isTight_value`).
-/
namespace CleanSql

open Text (IsTight isTightLeft isTightRight)

variable {p : Profile}

/-- What is written for the piece has no blank at its start if the expression has none. -/
def Piece.isTightLeft : Piece → Bool
  | text sql | part sql => Text.isTightLeft sql
  | literal _ | hole => true

def Piece.isTightRight : Piece → Bool
  | text sql | part sql => Text.isTightRight sql
  | literal _ | hole => true

theorem isTight_quoteLiteral (text : String) : IsTight (p.quoteLiteral text) :=
  Text.isTight_of_toList_eq (Profile.toList_quoteLiteral p text) (by decide) (by decide)

theorem isTight_quoteIdentifier (name : String) : IsTight (p.quoteIdentifier name) := by
  have hopening : ¬ Text.isBlank p.identifierQuote.opening := by
    cases p.identifierQuote <;> decide
  have hclosing : ¬ Text.isBlank p.identifierQuote.closing := by
    cases p.identifierQuote <;> decide
  exact Text.isTight_of_toList_eq (Profile.toList_quoteIdentifier p name) hopening hclosing

theorem Piece.isTightLeft_write {q : Piece} {e : String} (hq : q.isTightLeft) (he : IsTight e) :
    Text.isTightLeft (q.write p e) := by
  cases q with
  | text sql | part sql => exact hq
  | literal value => exact (isTight_quoteLiteral value).left
  | hole => exact he.left

theorem Piece.isTightRight_write {q : Piece} {e : String} (hq : q.isTightRight) (he : IsTight e) :
    Text.isTightRight (q.write p e) := by
  cases q with
  | text sql | part sql => exact hq
  | literal value => exact (isTight_quoteLiteral value).right
  | hole => exact he.right

namespace Frame

def isTight (f : Frame) : Bool :=
  f.head?.any Piece.isTightLeft && f.getLast?.any Piece.isTightRight

theorem isTight_fill {f : Frame} {e : String} (hf : f.isTight) (he : IsTight e) :
    IsTight (f.fill p e) := by
  obtain ⟨hl, hr⟩ := Bool.and_eq_true_iff.mp hf
  constructor
  · cases f with
    | nil => cases hl
    | cons q f => exact Text.isTightLeft_append (q.isTightLeft_write hl he) _
  · rcases List.eq_nil_or_concat f with rfl | ⟨g, q, rfl⟩
    · cases hr
    · rw [List.concat_eq_append, List.getLast?_concat] at hr
      rw [List.concat_eq_append, fill_append, fill_cons, fill_nil, String.append_empty]
      exact Text.isTightRight_append _ (q.isTightRight_write hr he)

theorem isTight_around {fs : List Frame} (hf : ∀ f ∈ fs, f.isTight) {e : String}
    (he : IsTight e) : IsTight (around p e fs) := by
  induction fs generalizing e with
  | nil => exact he
  | cons f fs ih =>
    rw [List.forall_mem_cons] at hf
    exact ih hf.2 (isTight_fill hf.1 he)

end Frame

variable {d : Dialect}

/-- A cast may end with the name of its type. -/
theorem isTight_castToFrame {type : String} (h : isTightRight type) :
    (p.castToFrame type).isTight := by
  have hopening : isTightLeft "(" := by decide
  unfold Profile.castToFrame
  split
  · rfl
  · simp [Frame.isTight, Piece.isTightLeft, Piece.isTightRight, h, hopening]

theorem Stage.isTight_frame {s : Stage}
    (h : ∀ name, s = .cast (.verbatim name) → Text.trim name ≠ "") :
    (s.frame d.profile).isTight := by
  cases s with
  | trim | upper | lower | title | strip | regex _ _ => cases d <;> rfl
  | split delimiter index =>
    simp only [frame, Profile.splitFrame]
    split
    · rfl
    · cases d <;> rfl
  | cast request =>
    cases request with
    | verbatim name => exact isTight_castToFrame (Text.isTight_trim (h name rfl)).right
    | engine type => cases d <;> cases type <;> rfl

namespace Column

variable (d : Dialect) (c : Column)

theorem isTight_startExpression (p : Profile) : IsTight (c.startExpression p) := by
  unfold startExpression Transformations.customExpression?
  dsimp only
  split_ifs with h
  · exact isTight_quoteIdentifier c.name
  · exact Text.isTight_trim h

theorem isTight_valueFrames : ∀ f ∈ c.valueFrames d.profile, f.isTight := by
  intro f hf
  obtain hf | rfl | rfl := c.mem_valueFrames hf
  · obtain ⟨s, hs, rfl⟩ := List.mem_map.mp hf
    refine Stage.isTight_frame fun name hname => ?_
    obtain ⟨htype, htrim⟩ := castRequest?_verbatim (castRequest?_of_mem_stages (hname ▸ hs))
    rw [htrim, Text.trim_trim, ← htrim]
    rintro rfl
    cases htype
  · rfl
  · have hfirst : isTightLeft "CASE" := by decide
    have hlast : isTightRight " END" := by decide
    simp [Profile.casesFrame, Frame.isTight, Piece.isTightLeft, Piece.isTightRight,
      List.getLast?_cons, hfirst, hlast]

/-- No value begins or ends with a blank. -/
theorem isTight_value : IsTight (c.value d.profile) := by
  rw [value_eq_around]
  exact Frame.isTight_around (c.isTight_valueFrames d) (c.isTight_startExpression d.profile)

end Column

end CleanSql
