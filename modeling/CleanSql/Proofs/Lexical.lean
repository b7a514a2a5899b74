import Mathlib.Data.List.Basic
import CleanSql.Dialect.Quoting

/-!
# Quotes and parentheses of SQL text

A reader of SQL that knows nothing but the quotes of a dialect and parentheses. A text is neutral
if it closes what it opens; its skeleton is what stays of it without the contents of its string
literals.
-/
namespace CleanSql

namespace LiteralEscape

def doublesQuote : LiteralEscape → Bool
  | doubled | doubledWithBackslash => true
  | backslash => false

/-- Whether a backslash takes its meaning from the character behind it. -/
def readsBackslash : LiteralEscape → Bool
  | doubled => false
  | doubledWithBackslash | backslash => true

end LiteralEscape

inductive LexMode where
  | code
  | literal
  /-- Behind a backslash inside a literal. -/
  | escaped
  /-- Behind a quote that ends its literal unless it is the first of two. -/
  | literalEnd
  | identifier
  /-- Behind a closing quote that ends its identifier unless it is the first of two. -/
  | identifierEnd
  deriving DecidableEq, Repr

namespace LexMode

variable (p : Profile)

def isOutside : LexMode → Bool
  | code | literalEnd | identifierEnd => true
  | literal | escaped | identifier => false

def enter (c : Char) : LexMode :=
  if c = '\'' then literal else if c = p.identifierQuote.opening then identifier else code

def step : LexMode → Char → LexMode
  | code, c => enter p c
  | literal, c =>
    if c = '\'' then literalEnd
    else if c = '\\' && p.literalEscape.readsBackslash then escaped
    else literal
  | escaped, _ => literal
  | literalEnd, c => if c = '\'' && p.literalEscape.doublesQuote then literal else enter p c
  | identifier, c => if c = p.identifierQuote.closing then identifierEnd else identifier
  | identifierEnd, c => if c = p.identifierQuote.closing then identifier else enter p c

def run (m : LexMode) (cs : List Char) : LexMode := cs.foldl (step p) m

@[simp] theorem run_nil (m : LexMode) : run p m [] = m := rfl

@[simp] theorem run_cons (m : LexMode) (c : Char) (cs : List Char) :
    run p m (c :: cs) = run p (m.step p c) cs := rfl

@[simp] theorem run_append (m : LexMode) (xs ys : List Char) :
    run p m (xs ++ ys) = run p (run p m xs) ys := by
  simp [run]

/-- What the skeleton keeps of a character. The quote that ends a literal is kept as soon as it is
known not to be the first of two. -/
def kept : LexMode → Char → List Char
  | code, c => [c]
  | literal, _ => []
  | escaped, _ => []
  | literalEnd, c => if c = '\'' && p.literalEscape.doublesQuote then [] else ['\'', c]
  | identifier, c => [c]
  | identifierEnd, c => [c]

/-- What the skeleton keeps of a text, but for a quote at its end. -/
def trail : LexMode → List Char → List Char
  | _, [] => []
  | m, c :: cs => m.kept p c ++ trail (m.step p c) cs

theorem trail_append (m : LexMode) (xs ys : List Char) :
    trail p m (xs ++ ys) = trail p m xs ++ trail p (run p m xs) ys := by
  induction xs generalizing m with
  | nil => simp [trail]
  | cons c cs ih => simp [trail, ih]

def lastQuote : LexMode → List Char
  | literalEnd => ['\'']
  | _ => []

variable {p}

theorem step_of_isOutside {m : LexMode} {c : Char} (hm : m.isOutside) (hq : c ≠ '\'')
    (hc : c ≠ p.identifierQuote.closing) : m.step p c = code.step p c := by
  cases m <;> simp_all [step, isOutside]

end LexMode

/-- A reader that also counts the parentheses that are open. -/
structure ScanState where
  mode : LexMode := .code
  depth : Nat := 0
  deriving DecidableEq, Repr

namespace ScanState

/-- How many parentheses are open behind a character; none if it closes one that is not. -/
def turn (c : Char) (n : Nat) : Option Nat :=
  if c = '(' then some (n + 1)
  else if c = ')' then (match n with
    | 0 => none
    | k + 1 => some k)
  else some n

/-- Parentheses count outside of all quotes only. -/
def step (p : Profile) (s : ScanState) (c : Char) : Option ScanState :=
  let mode := s.mode.step p c
  if mode = .code then (turn c s.depth).map fun n => ⟨mode, n⟩ else some ⟨mode, s.depth⟩

def run (p : Profile) (s : ScanState) (cs : List Char) : Option ScanState := cs.foldlM (step p) s

variable {p : Profile}

@[simp] theorem run_nil (s : ScanState) : run p s [] = some s := rfl

theorem run_cons (s : ScanState) (c : Char) (cs : List Char) :
    run p s (c :: cs) = (step p s c).bind fun r => run p r cs := by
  simp [run]

theorem run_append (s : ScanState) (xs ys : List Char) :
    run p s (xs ++ ys) = (run p s xs).bind fun r => run p r ys := by
  simp [run]

theorem mode_of_step {s r : ScanState} {c : Char} (h : step p s c = some r) :
    r.mode = s.mode.step p c := by
  simp only [step] at h
  split_ifs at h
  · obtain ⟨n, -, rfl⟩ := Option.map_eq_some_iff.mp h
    rfl
  · exact (Option.some.inj h) ▸ rfl

theorem mode_of_run {s r : ScanState} {cs : List Char} (h : run p s cs = some r) :
    r.mode = s.mode.run p cs := by
  induction cs generalizing s with
  | nil => exact (Option.some.inj h) ▸ rfl
  | cons c cs ih =>
    rw [run_cons] at h
    obtain ⟨t, ht, hr⟩ := Option.bind_eq_some_iff.mp h
    rw [LexMode.run_cons, ← mode_of_step ht]
    exact ih hr

theorem turn_add {c : Char} {n i : Nat} (h : turn c n = some i) (k : Nat) :
    turn c (n + k) = some (i + k) := by
  unfold turn at h ⊢
  split_ifs at h ⊢ with ho hc
  · cases h
    exact congrArg some (Nat.add_right_comm n k 1)
  · cases n with
    | zero => cases h
    | succ n =>
      cases h
      rw [Nat.add_right_comm]
  · cases h
    rfl

theorem step_add {s r : ScanState} {c : Char} (h : step p s c = some r) (k : Nat) :
    step p ⟨s.mode, s.depth + k⟩ c = some ⟨r.mode, r.depth + k⟩ := by
  simp only [step] at h ⊢
  split_ifs at h ⊢ with hm
  · obtain ⟨n, hn, rfl⟩ := Option.map_eq_some_iff.mp h
    simp [turn_add hn k]
  · cases h
    rfl

/-- A text is read alike inside of further parentheses. -/
theorem run_add {s r : ScanState} {cs : List Char} (h : run p s cs = some r) (k : Nat) :
    run p ⟨s.mode, s.depth + k⟩ cs = some ⟨r.mode, r.depth + k⟩ := by
  induction cs generalizing s with
  | nil =>
    cases h
    rfl
  | cons c cs ih =>
    rw [run_cons] at h ⊢
    obtain ⟨t, ht, hr⟩ := Option.bind_eq_some_iff.mp h
    rw [step_add ht k]
    exact ih hr

theorem run_literal_escape (n : Nat) (c : Char) :
    run p ⟨.literal, n⟩ (p.literalEscape.escape c) = some ⟨.literal, n⟩ := by
  cases h : p.literalEscape <;> unfold LiteralEscape.escape <;> split <;>
    simp_all [run_cons, step, LexMode.step, LiteralEscape.readsBackslash,
      LiteralEscape.doublesQuote]

theorem run_identifier_escape (n : Nat) (c : Char) :
    run p ⟨.identifier, n⟩ (p.identifierQuote.escape c) = some ⟨.identifier, n⟩ := by
  unfold IdentifierQuote.escape
  split_ifs <;> simp_all [run_cons, step, LexMode.step]

/-- What is written character by character without leaving its quotes stays inside them. -/
theorem run_flatMap {s : ScanState} {f : Char → List Char} (hf : ∀ c, run p s (f c) = some s)
    (cs : List Char) : run p s (cs.flatMap f) = some s := by
  induction cs with
  | nil => rfl
  | cons c cs ih => rw [List.flatMap_cons, run_append, hf, Option.bind_some, ih]

theorem run_quoteLiteral (n : Nat) (text : String) :
    run p ⟨.code, n⟩ (p.quoteLiteral text).toList = some ⟨.literalEnd, n⟩ := by
  simp [run_cons, run_append, step, LexMode.step, LexMode.enter,
    run_flatMap (run_literal_escape n)]

theorem run_quoteIdentifier (n : Nat) (name : String) :
    run p ⟨.code, n⟩ (p.quoteIdentifier name).toList = some ⟨.identifierEnd, n⟩ := by
  have hq : p.identifierQuote.opening ≠ '\'' := by cases p.identifierQuote <;> decide
  simp [run_cons, run_append, step, LexMode.step, LexMode.enter, hq,
    run_flatMap (run_identifier_escape n)]

end ScanState

namespace LexMode

variable {p : Profile}

theorem trail_literal_escape (c : Char) : trail p literal (p.literalEscape.escape c) = [] := by
  cases h : p.literalEscape <;> unfold LiteralEscape.escape <;> split <;>
    simp_all [trail, kept, step, LiteralEscape.readsBackslash, LiteralEscape.doublesQuote]

theorem trail_literal_flatMap (cs : List Char) :
    trail p literal (cs.flatMap p.literalEscape.escape) = [] := by
  induction cs with
  | nil => rfl
  | cons c cs ih =>
    have hc := ScanState.mode_of_run (ScanState.run_literal_escape (p := p) 0 c)
    rw [List.flatMap_cons, trail_append, trail_literal_escape, ← hc, ih]
    rfl

theorem trail_quoteLiteral (text : String) :
    trail p code (p.quoteLiteral text).toList = ['\''] := by
  have hr := ScanState.mode_of_run
    (ScanState.run_flatMap (ScanState.run_literal_escape (p := p) 0) text.toList)
  simp [trail, kept, step, enter, trail_append, trail_literal_flatMap, ← hr]

theorem run_quoteLiteral (text : String) : run p code (p.quoteLiteral text).toList = literalEnd :=
  (ScanState.mode_of_run (ScanState.run_quoteLiteral 0 text)).symm

theorem run_quoteIdentifier (name : String) :
    run p code (p.quoteIdentifier name).toList = identifierEnd :=
  (ScanState.mode_of_run (ScanState.run_quoteIdentifier 0 name)).symm

end LexMode

section Texts

variable (p : Profile)

def Closed (s : String) : Prop := (LexMode.run p .code s.toList).isOutside

/-- Read from its start, the text never closes a parenthesis that is not open, and at its end all
quotes and parentheses are closed. -/
def Neutral (s : String) : Prop :=
  ∃ r ∈ ScanState.run p {} s.toList, r.mode.isOutside ∧ r.depth = 0

/-- The text without the contents of its string literals. -/
def skeleton (s : String) : String :=
  String.ofList (LexMode.trail p .code s.toList ++ (LexMode.run p .code s.toList).lastQuote)

instance (s : String) : Decidable (Closed p s) := inferInstanceAs (Decidable (_ = true))

instance (s : String) : Decidable (Neutral p s) :=
  inferInstanceAs (Decidable (∃ r ∈ ScanState.run p {} s.toList, r.mode.isOutside ∧ r.depth = 0))

end Texts

example : skeleton .mysql "CONCAT(`it's`, 'it''s', '\\'')" = "CONCAT(`it's`, '', '')" := by decide

section

variable {p : Profile}

theorem Neutral.closed {s : String} (h : Neutral p s) : Closed p s := by
  obtain ⟨r, hr, hm, -⟩ := h
  rwa [Closed, ← ScanState.mode_of_run hr]

/-- A neutral text leaves the parentheses around it as they are. -/
theorem Neutral.run {s : String} (h : Neutral p s) (n : Nat) :
    ∃ m : LexMode, m.isOutside ∧ ScanState.run p ⟨.code, n⟩ s.toList = some ⟨m, n⟩ := by
  obtain ⟨⟨m, k⟩, hr, hm, hk⟩ := h
  cases hk
  have hn := ScanState.run_add (Option.mem_def.mp hr) n
  simp only [Nat.zero_add] at hn
  exact ⟨m, hm, hn⟩

theorem neutral_of_run {s : String} {m : LexMode} (hm : m.isOutside)
    (h : ScanState.run p ⟨.code, 0⟩ s.toList = some ⟨m, 0⟩) : Neutral p s :=
  ⟨_, h, hm, rfl⟩

theorem neutral_quoteLiteral (text : String) : Neutral p (p.quoteLiteral text) :=
  neutral_of_run rfl (ScanState.run_quoteLiteral 0 text)

theorem neutral_quoteIdentifier (name : String) : Neutral p (p.quoteIdentifier name) :=
  neutral_of_run rfl (ScanState.run_quoteIdentifier 0 name)

/-- The quotes and parentheses of all dialects. -/
def marks : List Char := ['\'', '"', '\x60', '[', ']', '(', ')']

/-- A character that opens and closes nothing in any dialect. -/
def isPlain (c : Char) : Bool := !marks.contains c

theorem isPlain_of_kind {k : Char → Bool} {c : Char} (hk : marks.any k = false) (h : k c) :
    isPlain c := by
  rw [isPlain, Bool.not_eq_true', Bool.eq_false_iff]
  intro hm
  have hany : marks.any k = true := List.any_eq_true.mpr ⟨c, List.contains_iff_mem.mp hm, h⟩
  rw [hk] at hany
  cases hany

theorem ScanState.step_of_isPlain {c : Char} (h : isPlain c) (n : Nat) :
    step p ⟨.code, n⟩ c = some ⟨.code, n⟩ := by
  simp only [isPlain, marks, List.contains_cons, List.contains_nil, Bool.or_false,
    Bool.not_eq_true', Bool.or_eq_false_iff, beq_eq_false_iff_ne] at h
  have ho : c ≠ p.identifierQuote.opening := by
    cases p.identifierQuote <;> simp [IdentifierQuote.opening, h]
  simp [step, LexMode.step, LexMode.enter, turn, h, ho]

theorem neutral_of_isPlain {s : String} (h : ∀ c ∈ s.toList, isPlain c) : Neutral p s := by
  refine neutral_of_run (m := .code) rfl ?_
  generalize s.toList = cs at h
  induction cs with
  | nil => rfl
  | cons c cs ih =>
    rw [ScanState.run_cons, ScanState.step_of_isPlain (h c (by simp)), Option.bind_some]
    exact ih fun d hd => h d (by simp [hd])

end

end CleanSql
