import Mathlib.Algebra.GroupWithZero.Nat
import CleanSql.Proofs.Frame.Basic
import CleanSql.Proofs.Trim

/-!
# Openings of template code

In the template language two characters in a row begin code, and all else is copied as it is. Here
the places where code begins are counted. Quoting hides none of them and adds none
(`openings_quoteLiteral`, `openings_quoteIdentifier`), since no quote escapes the characters they are
made of. A frame adds none of its own: those of what is written in it are the sum of those of its
pieces (`openings_fill`).
-/
namespace CleanSql.Template

/-- The two characters begin an expression, a statement or a comment. -/
def opens (c e : Char) : Bool := c = '\x7b' && (e = '\x7b' || e = '%' || e = '#')

def count : List Char → Nat
  | c :: e :: cs => (opens c e).toNat + count (e :: cs)
  | _ => 0

def openings (s : String) : Nat := count s.toList

/-- Nothing in the text is code. -/
def Inert (s : String) : Prop := openings s = 0

instance (s : String) : Decidable (Inert s) := inferInstanceAs (Decidable (_ = 0))

def isInert (c : Char) : Bool := c ≠ '\x7b' && c ≠ '%' && c ≠ '#'

def isInertText (s : String) : Bool := s.toList.all isInert

example : openings "a \x7b\x7b\x7b b \x7b % \x7b% c" = 3 := by decide

section Count

variable {c e : Char} {xs ys : List Char}

theorem opens_of_isInert_left (h : isInert c) : opens c e = false := by
  simp only [isInert, Bool.and_eq_true, decide_eq_true_eq] at h
  simp [opens, h.1.1]

theorem opens_of_isInert_right (h : isInert e) : opens c e = false := by
  simp only [isInert, Bool.and_eq_true, decide_eq_true_eq] at h
  simp [opens, h.1.1, h.1.2, h.2]

theorem isInert_of_kind {k : Char → Bool} (hk : ['\x7b', '%', '#'].any k = false) (h : k c) :
    isInert c := by
  by_contra hc
  have hmem : c ∈ ['\x7b', '%', '#'] := by
    simp only [isInert, Bool.and_eq_true, decide_eq_true_eq] at hc
    simp only [List.mem_cons, List.not_mem_nil, or_false]
    tauto
  have hany := List.any_eq_true.mpr ⟨c, hmem, h⟩
  rw [hk] at hany
  cases hany

theorem count_cons_of_isInert (h : isInert c) : count (c :: xs) = count xs := by
  cases xs with
  | nil => rfl
  | cons e xs => simp [count, opens_of_isInert_left h]

theorem count_append (h : ∀ x ∈ xs.getLast?, ∀ y ∈ ys.head?, opens x y = false) :
    count (xs ++ ys) = count xs + count ys := by
  induction xs with
  | nil => simp [count]
  | cons x xs ih =>
    cases xs with
    | nil =>
      cases ys with
      | nil => rfl
      | cons y ys => simp [count, h x rfl y rfl]
    | cons z xs =>
      have hrest := ih fun x hx => h x (by rwa [List.getLast?_cons_cons])
      rw [List.cons_append] at hrest
      rw [List.cons_append, List.cons_append, count, count, hrest, Nat.add_assoc]

theorem count_of_isInert (h : ∀ c ∈ xs, isInert c) : count xs = 0 := by
  induction xs with
  | nil => rfl
  | cons c xs ih =>
    rw [List.forall_mem_cons] at h
    rw [count_cons_of_isInert h.1, ih h.2]

theorem count_append_of_inert_right (h : ∀ c ∈ ys, isInert c) :
    count (xs ++ ys) = count xs := by
  rw [count_append fun x _ y hy => opens_of_isInert_right (h y (List.mem_of_mem_head? hy)),
    count_of_isInert h, Nat.add_zero]

theorem count_append_of_inert_left (h : ∀ c ∈ xs, isInert c) :
    count (xs ++ ys) = count ys := by
  rw [count_append fun x hx y _ => opens_of_isInert_left (h x (List.mem_of_getLast? hx)),
    count_of_isInert h, Nat.zero_add]

/-- Characters that are written in the place of one character; those that can be part of an opening
are written as they are. -/
structure Escapes (f : Char → List Char) : Prop where
  keeps : ∀ c, isInert c = false → f c = [c]
  ne_nil : ∀ c, f c ≠ []
  inert : ∀ c, isInert c → ∀ e ∈ f c, isInert e

theorem Escapes.count_flatMap {f : Char → List Char} (hf : Escapes f) (cs : List Char) :
    count (cs.flatMap f) = count cs := by
  -- The first character behind an opening brace counts, and escapes leave it what it is to openings.
  have hhead (c : Char) (cs : List Char) :
      count (c :: cs.flatMap f) = (cs.head?.any (opens c)).toNat + count (cs.flatMap f) := by
    cases cs with
    | nil => rfl
    | cons e cs =>
      rw [List.flatMap_cons]
      cases hfe : f e with
      | nil => exact absurd hfe (hf.ne_nil e)
      | cons b bs =>
        have hopens : opens c b = opens c e := by
          cases he : isInert e with
          | false =>
            rw [hf.keeps e he] at hfe
            rw [(List.cons.inj hfe).1]
          | true =>
            have hb : isInert b := hf.inert e he b (by rw [hfe]; exact List.mem_cons_self)
            rw [opens_of_isInert_right hb, opens_of_isInert_right he]
        simp [count, hopens]
  induction cs with
  | nil => rfl
  | cons c cs ih =>
    rw [List.flatMap_cons]
    cases hc : isInert c with
    | false =>
      rw [hf.keeps c hc, List.singleton_append, hhead, ih]
      cases cs <;> simp [count]
    | true => rw [count_append_of_inert_left (hf.inert c hc), ih, count_cons_of_isInert hc]

theorem escapes_literal (l : LiteralEscape) : Escapes l.escape where
  keeps c hc := by
    unfold LiteralEscape.escape
    split <;> first | rfl | exact absurd hc (by decide)
  ne_nil c := by
    unfold LiteralEscape.escape
    split <;> exact List.cons_ne_nil _ _
  inert c hc := by
    unfold LiteralEscape.escape
    split <;> first | exact List.all_eq_true.mp rfl | simpa using hc

theorem escapes_identifier (q : IdentifierQuote) : Escapes q.escape where
  keeps c hc := by
    have hne : c ≠ q.closing := by
      rintro rfl
      cases q <;> exact absurd hc (by decide)
    exact if_neg hne
  ne_nil c := by
    unfold IdentifierQuote.escape
    split <;> exact List.cons_ne_nil _ _
  inert c hc := by
    unfold IdentifierQuote.escape
    split <;> simpa using hc

end Count

section Texts

variable {a b s : String}

theorem isInertText_iff : isInertText s ↔ ∀ c ∈ s.toList, isInert c := List.all_eq_true

theorem inert_of_isInertText (h : isInertText s) : Inert s :=
  count_of_isInert (isInertText_iff.mp h)

theorem openings_append_of_right (h : isInertText b) : openings (a ++ b) = openings a := by
  rw [openings, String.toList_append, count_append_of_inert_right (isInertText_iff.mp h)]
  rfl

theorem openings_append_of_left (h : isInertText a) : openings (a ++ b) = openings b := by
  rw [openings, String.toList_append, count_append_of_inert_left (isInertText_iff.mp h)]
  rfl

theorem openings_append (h : ∀ x ∈ a.toList.getLast?, isInert x) :
    openings (a ++ b) = openings a + openings b := by
  rw [openings, String.toList_append,
    count_append fun x hx y _ => opens_of_isInert_left (h x hx)]
  rfl

theorem openings_between (h : isInertText s) (hs : s ≠ "") :
    openings (a ++ s ++ b) = openings a + openings b := by
  rw [openings_append, openings_append_of_right h]
  intro x hx
  have hne : s.toList ≠ [] := fun hnil => hs (String.toList_eq_nil_iff.mp hnil)
  rw [String.toList_append, List.getLast?_append_of_ne_nil _ hne] at hx
  exact isInertText_iff.mp h x (List.mem_of_getLast? hx)

theorem openings_intercalate (h : isInertText s) (hs : s ≠ "") (l : List String) :
    openings (String.intercalate s l) = (l.map openings).sum := by
  induction l with
  | nil => rw [String.intercalate_nil]; rfl
  | cons a l ih =>
    cases l with
    | nil => simp
    | cons b l =>
      rw [String.intercalate_cons_cons, openings_between h hs, ih]
      rfl

theorem openings_trim (s : String) : openings (Text.trim s) = openings s := by
  obtain ⟨xs, ys, hx, hy, hs⟩ := Text.exists_eq_append_trimChars s.toList
  rw [openings, openings, Text.toList_trim]
  conv_rhs => rw [hs]
  rw [count_append_of_inert_right fun c hc => isInert_of_kind (by decide) (hy c hc),
    count_append_of_inert_left fun c hc => isInert_of_kind (by decide) (hx c hc)]

end Texts

section Quotes

variable (p : Profile)

@[simp] theorem openings_quoteLiteral (text : String) :
    openings (p.quoteLiteral text) = openings text := by
  rw [openings, Profile.toList_quoteLiteral, List.cons_append, count_cons_of_isInert (by decide),
    count_append_of_inert_right (List.all_eq_true.mp rfl), (escapes_literal _).count_flatMap]
  rfl

@[simp] theorem openings_quoteIdentifier (name : String) :
    openings (p.quoteIdentifier name) = openings name := by
  have hopening : isInert p.identifierQuote.opening := by cases p.identifierQuote <;> rfl
  have hclosing : ∀ c ∈ [p.identifierQuote.closing], isInert c := by
    cases p.identifierQuote <;> exact List.all_eq_true.mp rfl
  rw [openings, Profile.toList_quoteIdentifier, List.cons_append, count_cons_of_isInert hopening,
    count_append_of_inert_right hclosing, (escapes_identifier _).count_flatMap]
  rfl

end Quotes

/-- The fixed texts of a frame have no part in an opening. -/
def isInertFrame (f : Frame) : Bool := f.all fun q =>
  match q with
  | .text sql => isInertText sql
  | _ => true

section Frames

variable {p : Profile} {e : String}

/-- What is written so far cannot begin an opening if no text is due next. -/
def Keeps (s : FrameState) (a : String) : Prop :=
  s.bare → ∀ x ∈ a.toList.getLast?, isInert x

theorem openings_append_piece {s r : FrameState} {q : Piece} (hq : isInertFrame [q])
    (h : q.check p s = some r) {a : String} (ha : Keeps s a) :
    Keeps r (a ++ q.write p e) ∧
      openings (a ++ q.write p e) = openings a + openings (q.write p e) := by
  by_cases htext : ∃ sql, q = .text sql
  · obtain ⟨sql, rfl⟩ := htext
    have hinert : isInertText sql := by simpa [isInertFrame] using hq
    refine ⟨fun _ x hx => ?_, ?_⟩
    · simp only [Piece.write, String.toList_append] at hx
      by_cases hempty : sql.toList = []
      · -- An empty text can stand only where nothing has to be kept apart.
        have hbare : s.bare := by
          obtain ⟨hs, -⟩ := check_text h
          refine hs.resolve_right fun hiso => ?_
          simp [isolates, hempty] at hiso
        rw [hempty, List.append_nil] at hx
        exact ha hbare x hx
      · rw [List.getLast?_append_of_ne_nil _ hempty] at hx
        exact isInertText_iff.mp hinert x (List.mem_of_getLast? hx)
    · rw [Piece.write, openings_append_of_right hinert, inert_of_isInertText hinert, Nat.add_zero]
  · rw [not_exists] at htext
    obtain ⟨hbare, rfl⟩ := check_of_ne_text h htext
    exact ⟨fun hnone => absurd hnone Bool.false_ne_true, openings_append (ha hbare)⟩

theorem openings_append_fill {s r : FrameState} {f : Frame} (hf : isInertFrame f)
    (h : f.check p s = some r) {a : String} (ha : Keeps s a) :
    openings (a ++ f.fill p e) = openings a + (f.map fun q => openings (q.write p e)).sum := by
  induction f generalizing s a with
  | nil => simp
  | cons q f ih =>
    obtain ⟨hq, hf⟩ : isInertFrame [q] ∧ isInertFrame f := by simpa [isInertFrame] using hf
    rw [Frame.check_cons] at h
    obtain ⟨t, ht, hr⟩ := Option.bind_eq_some_iff.mp h
    obtain ⟨hkeeps, hpiece⟩ := openings_append_piece (e := e) hq ht ha
    rw [Frame.fill_cons, ← String.append_assoc, ih hf hr hkeeps, hpiece, List.map_cons,
      List.sum_cons, Nat.add_assoc]

/-- The openings of what is written in a frame are those of its pieces. -/
theorem openings_fill {f : Frame} (hf : isInertFrame f) (hb : f.Balanced p) :
    openings (f.fill p e) = (f.map fun q => openings (q.write p e)).sum := by
  obtain ⟨s, hs, -⟩ := hb
  have hfill := openings_append_fill (e := e) (a := "") hf hs (fun _ => nofun)
  rwa [String.empty_append, show openings "" = 0 from rfl, Nat.zero_add] at hfill

theorem inert_fill_iff {f : Frame} (hf : isInertFrame f) (hb : f.Balanced p) :
    Inert (f.fill p e) ↔ ∀ q ∈ f, Inert (q.write p e) := by
  rw [Inert, openings_fill hf hb, List.sum_eq_zero_iff_forall_eq_nat, List.forall_mem_map]
  rfl

end Frames

end CleanSql.Template
