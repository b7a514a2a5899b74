import CleanSql.Proofs.Lexical

/-!
# Frames

What is written around an expression: fixed texts, literals, texts that stand on their own, and
the places of the expression. Whether quotes and parentheses of a frame are in order can be
computed without its literals and its parts; a frame in order keeps an expression neutral
(`Frame.neutral_fill`) and lets nothing of its literals show in a skeleton
(`Frame.alike_fill`).
-/
namespace CleanSql

inductive Piece where
  | text (sql : String)
  | literal (value : String)
  /-- A text that is not looked into: a number, a type, a condition, a name. -/
  | part (sql : String)
  /-- The place of the expression. -/
  | hole
  deriving DecidableEq, Repr

abbrev Frame := List Piece

namespace Piece

def write (p : Profile) (e : String) : Piece → String
  | text sql => sql
  | literal value => p.quoteLiteral value
  | part sql => sql
  | hole => e

def blank : Piece → Piece
  | literal _ => literal ""
  | q => q

def part? : Piece → Option String
  | part sql => some sql
  | _ => none

end Piece

/-- What is known behind a piece: whether no quote can have been closed just before, and how many
parentheses are open. -/
structure FrameState where
  bare : Bool := true
  depth : Nat := 0
  deriving DecidableEq, Repr

/-- Whether a text cannot double a quote that stands before it. -/
def isolates (p : Profile) (sql : String) : Bool :=
  match sql.toList with
  | [] => false
  | c :: _ => c ≠ '\'' && c ≠ p.identifierQuote.closing

/-- Fixed texts leave all quotes; between two other pieces there is a fixed text. -/
def Piece.check (p : Profile) (s : FrameState) : Piece → Option FrameState
  | text sql =>
    if s.bare || isolates p sql then
      match ScanState.run p ⟨.code, s.depth⟩ sql.toList with
      | some ⟨.code, n⟩ => some ⟨true, n⟩
      | _ => none
    else none
  | _ => if s.bare then some ⟨false, s.depth⟩ else none

namespace Frame

def fill (p : Profile) (e : String) : Frame → String
  | [] => ""
  | q :: f => q.write p e ++ fill p e f

def blank (f : Frame) : Frame := f.map Piece.blank

def parts (f : Frame) : List String := f.filterMap Piece.part?

def check (p : Profile) (s : FrameState) (f : Frame) : Option FrameState :=
  f.foldlM (Piece.check p) s

/-- All that the frame opens it closes, and it closes nothing else. -/
def Balanced (p : Profile) (f : Frame) : Prop := ∃ s ∈ f.check p {}, s.depth = 0

variable {p : Profile}

@[simp] theorem fill_nil (e : String) : fill p e [] = "" := rfl

@[simp] theorem fill_cons (e : String) (q : Piece) (f : Frame) :
    fill p e (q :: f) = q.write p e ++ fill p e f := rfl

@[simp] theorem fill_append (e : String) (f g : Frame) :
    fill p e (f ++ g) = fill p e f ++ fill p e g := by
  induction f with
  | nil => simp
  | cons q f ih => rw [List.cons_append, fill_cons, fill_cons, ih, String.append_assoc]

theorem mem_parts_cons {sql : String} {q : Piece} {f : Frame} :
    sql ∈ parts (q :: f) ↔ q.part? = some sql ∨ sql ∈ f.parts := by
  simp only [parts, List.filterMap_cons]
  cases q.part? <;> simp [eq_comm]

theorem mem_parts_iff {sql : String} {f : Frame} : sql ∈ f.parts ↔ .part sql ∈ f := by
  rw [parts, List.mem_filterMap]
  constructor
  · rintro ⟨q, hq, hpart⟩
    cases q with
    | part _ => exact Option.some.inj hpart ▸ hq
    | text _ | literal _ | hole => cases hpart
  · exact fun h => ⟨.part sql, h, rfl⟩

@[simp] theorem parts_append (f g : Frame) : parts (f ++ g) = f.parts ++ g.parts := by
  simp [parts]

theorem check_cons (s : FrameState) (q : Piece) (f : Frame) :
    check p s (q :: f) = (q.check p s).bind fun r => check p r f := by
  simp [check]

theorem check_append (s : FrameState) (f g : Frame) :
    check p s (f ++ g) = (check p s f).bind fun r => check p r g := by
  simp [check]

end Frame

/-- The reader is outside of all quotes, and surely not behind one unless the state allows it. -/
def FrameState.Admits (s : FrameState) (m : LexMode) : Prop := m.isOutside ∧ (s.bare → m = .code)

section

variable {p : Profile}

theorem check_text {s r : FrameState} {sql : String} (h : (Piece.text sql).check p s = some r) :
    (s.bare ∨ isolates p sql) ∧ r.bare = true ∧
      ScanState.run p ⟨.code, s.depth⟩ sql.toList = some ⟨.code, r.depth⟩ := by
  simp only [Piece.check] at h
  split_ifs at h with hs
  refine ⟨by simpa using hs, ?_⟩
  split at h
  · next n hn =>
    cases h
    exact ⟨rfl, hn⟩
  · cases h

theorem step_isolates {sql : String} (h : isolates p sql) {m : LexMode} (hm : m.isOutside) :
    ∃ c cs, sql.toList = c :: cs ∧ m.step p c = LexMode.code.step p c := by
  unfold isolates at h
  split at h
  · cases h
  · next c cs hc =>
    simp only [Bool.and_eq_true, decide_eq_true_eq, ne_eq] at h
    exact ⟨c, cs, hc, LexMode.step_of_isOutside hm h.1 h.2⟩

theorem run_text {s r : FrameState} {sql : String} (h : (Piece.text sql).check p s = some r)
    {m : LexMode} (hm : s.Admits m) :
    ScanState.run p ⟨m, s.depth⟩ sql.toList = some ⟨.code, r.depth⟩ := by
  obtain ⟨hs, -, hrun⟩ := check_text h
  rcases hs with hb | hi
  · rw [hm.2 hb, hrun]
  · obtain ⟨c, cs, hc, hstep⟩ := step_isolates hi hm.1
    rw [hc, ScanState.run_cons] at hrun ⊢
    rw [← hrun]
    simp only [ScanState.step, hstep]

theorem check_of_ne_text {s r : FrameState} {q : Piece} (h : q.check p s = some r)
    (hq : ∀ sql, q ≠ .text sql) : s.bare ∧ r = ⟨false, s.depth⟩ := by
  cases q with
  | text sql => exact absurd rfl (hq sql)
  | literal _ | part _ | hole =>
    simp only [Piece.check] at h
    split_ifs at h with hs
    cases h
    exact ⟨hs, rfl⟩

theorem Piece.neutral_write {q : Piece} {e : String} (hq : ∀ sql, q ≠ .text sql)
    (hpart : ∀ sql, q.part? = some sql → Neutral p sql) (he : Neutral p e) :
    Neutral p (q.write p e) := by
  cases q with
  | text sql => exact absurd rfl (hq sql)
  | literal value => exact neutral_quoteLiteral value
  | part sql => exact hpart sql rfl
  | hole => exact he

theorem Piece.run_write {s r : FrameState} {q : Piece} {e : String}
    (hpart : ∀ sql, q.part? = some sql → Neutral p sql) (he : Neutral p e)
    (h : q.check p s = some r) {m : LexMode} (hm : s.Admits m) :
    ∃ k : LexMode, r.Admits k ∧
      ScanState.run p ⟨m, s.depth⟩ (q.write p e).toList = some ⟨k, r.depth⟩ := by
  by_cases hq : ∃ sql, q = .text sql
  · obtain ⟨sql, rfl⟩ := hq
    exact ⟨.code, ⟨rfl, fun _ => rfl⟩, run_text h hm⟩
  · rw [not_exists] at hq
    obtain ⟨hb, rfl⟩ := check_of_ne_text h hq
    obtain ⟨k, hk, hrun⟩ := (Piece.neutral_write hq hpart he).run s.depth
    rw [hm.2 hb]
    exact ⟨k, ⟨hk, nofun⟩, hrun⟩

namespace Frame

theorem run_fill {s r : FrameState} {f : Frame} {e : String}
    (hpart : ∀ sql ∈ f.parts, Neutral p sql) (he : Neutral p e)
    (h : f.check p s = some r) {m : LexMode} (hm : s.Admits m) :
    ∃ k : LexMode, r.Admits k ∧
      ScanState.run p ⟨m, s.depth⟩ (f.fill p e).toList = some ⟨k, r.depth⟩ := by
  -- What the check knows behind a piece holds of the reader there.
  induction f generalizing s m with
  | nil =>
    cases h
    exact ⟨m, hm, rfl⟩
  | cons q f ih =>
    rw [check_cons] at h
    obtain ⟨t, ht, hr⟩ := Option.bind_eq_some_iff.mp h
    obtain ⟨k, hk, hrun⟩ :=
      Piece.run_write (fun sql hq => hpart sql (mem_parts_cons.mpr (.inl hq))) he ht hm
    obtain ⟨l, hl, hrest⟩ := ih (fun sql hq => hpart sql (mem_parts_cons.mpr (.inr hq))) hr hk
    refine ⟨l, hl, ?_⟩
    rw [fill_cons, String.toList_append, ScanState.run_append, hrun, Option.bind_some, hrest]

/-- A balanced frame around a neutral expression is neutral. -/
theorem neutral_fill {f : Frame} {e : String} (hf : f.Balanced p)
    (hpart : ∀ sql ∈ f.parts, Neutral p sql) (he : Neutral p e) :
    Neutral p (f.fill p e) := by
  obtain ⟨s, hs, hd⟩ := hf
  obtain ⟨k, hk, hrun⟩ := run_fill hpart he hs (m := .code) ⟨rfl, fun _ => rfl⟩
  rw [hd] at hrun
  exact neutral_of_run hk.1 hrun

end Frame

/-- Two texts that a reader of quotes leaves in the same way, and that look the same to it but for
the contents of their literals. -/
structure Alike (p : Profile) (a b : String) : Prop where
  closed : Closed p a
  run_eq : LexMode.run p .code a.toList = LexMode.run p .code b.toList
  trail_eq : LexMode.trail p .code a.toList = LexMode.trail p .code b.toList

namespace Alike

theorem refl {a : String} (h : Closed p a) : Alike p a a := ⟨h, rfl, rfl⟩

theorem symm {a b : String} (h : Alike p a b) : Alike p b a :=
  ⟨by rw [Closed, ← h.run_eq]; exact h.closed, h.run_eq.symm, h.trail_eq.symm⟩

theorem skeleton_eq {a b : String} (h : Alike p a b) : skeleton p a = skeleton p b := by
  rw [skeleton, skeleton, h.run_eq, h.trail_eq]

theorem quoteLiteral (x y : String) : Alike p (p.quoteLiteral x) (p.quoteLiteral y) where
  closed := by rw [Closed, LexMode.run_quoteLiteral]; rfl
  run_eq := by rw [LexMode.run_quoteLiteral, LexMode.run_quoteLiteral]
  trail_eq := by rw [LexMode.trail_quoteLiteral, LexMode.trail_quoteLiteral]

end Alike

theorem closed_quoteIdentifier (name : String) : Closed p (p.quoteIdentifier name) := by
  rw [Closed, LexMode.run_quoteIdentifier]
  rfl

theorem Piece.alike_write {q : Piece} {a b : String} (hq : ∀ sql, q ≠ .text sql)
    (hpart : ∀ sql, q.part? = some sql → Closed p sql) (h : Alike p a b) :
    Alike p (q.write p a) (q.blank.write p b) := by
  cases q with
  | text sql => exact absurd rfl (hq sql)
  | literal value => exact .quoteLiteral value ""
  | part sql => exact .refl (hpart sql rfl)
  | hole => exact h

theorem Piece.trail_write {s r : FrameState} {q : Piece} {a b : String}
    (hpart : ∀ sql, q.part? = some sql → Closed p sql) (hab : Alike p a b)
    (h : q.check p s = some r) {m : LexMode} (hm : s.Admits m) :
    r.Admits (LexMode.run p m (q.write p a).toList) ∧
      LexMode.run p m (q.write p a).toList = LexMode.run p m (q.blank.write p b).toList ∧
      LexMode.trail p m (q.write p a).toList = LexMode.trail p m (q.blank.write p b).toList := by
  by_cases hq : ∃ sql, q = .text sql
  · obtain ⟨sql, rfl⟩ := hq
    have hrun : LexMode.code = LexMode.run p m sql.toList := ScanState.mode_of_run (run_text h hm)
    refine ⟨?_, rfl, rfl⟩
    simp only [Piece.write, ← hrun]
    exact ⟨rfl, fun _ => rfl⟩
  · rw [not_exists] at hq
    obtain ⟨hb, rfl⟩ := check_of_ne_text h hq
    have hw := Piece.alike_write hq hpart hab
    rw [hm.2 hb]
    exact ⟨⟨hw.closed, nofun⟩, hw.run_eq, hw.trail_eq⟩

namespace Frame

theorem trail_fill {s r : FrameState} {f : Frame} {a b : String}
    (hpart : ∀ sql ∈ f.parts, Closed p sql) (hab : Alike p a b)
    (h : f.check p s = some r) {m : LexMode} (hm : s.Admits m) :
    r.Admits (LexMode.run p m (f.fill p a).toList) ∧
      LexMode.run p m (f.fill p a).toList = LexMode.run p m (f.blank.fill p b).toList ∧
      LexMode.trail p m (f.fill p a).toList = LexMode.trail p m (f.blank.fill p b).toList := by
  induction f generalizing s m with
  | nil =>
    cases h
    exact ⟨hm, rfl, rfl⟩
  | cons q f ih =>
    rw [check_cons] at h
    obtain ⟨t, ht, hr⟩ := Option.bind_eq_some_iff.mp h
    obtain ⟨hk, hrun, htrail⟩ :=
      Piece.trail_write (fun sql hq => hpart sql (mem_parts_cons.mpr (.inl hq))) hab ht hm
    obtain ⟨hl, hrun', htrail'⟩ := ih (fun sql hq => hpart sql (mem_parts_cons.mpr (.inr hq))) hr hk
    simp only [blank, List.map_cons, fill_cons, String.toList_append, LexMode.run_append,
      LexMode.trail_append, ← hrun, ← htrail]
    exact ⟨hl, hrun', congrArg _ htrail'⟩

theorem alike_fill {f g : Frame} {a b : String} (hf : f.Balanced p) (hg : g.Balanced p)
    (hfg : f.blank = g.blank) (hfpart : ∀ sql ∈ f.parts, Closed p sql)
    (hgpart : ∀ sql ∈ g.parts, Closed p sql) (hab : Alike p a b) :
    Alike p (f.fill p a) (g.fill p b) := by
  obtain ⟨s, hs, -⟩ := hf
  obtain ⟨t, ht, -⟩ := hg
  have hb : Alike p b b := .refl hab.symm.closed
  obtain ⟨hk, hrun, htrail⟩ := trail_fill hfpart hab hs (m := .code) ⟨rfl, fun _ => rfl⟩
  obtain ⟨-, hrun', htrail'⟩ := trail_fill hgpart hb ht (m := .code) ⟨rfl, fun _ => rfl⟩
  exact ⟨hk.1, by rw [hrun, hfg, hrun'], by rw [htrail, hfg, htrail']⟩

end Frame

end

end CleanSql
