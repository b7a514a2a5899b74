import CleanSql.Fragment.Cast
import CleanSql.Proofs.Automaton
import CleanSql.Proofs.Lexical

/-!
# The grammar of type names

A type name is one or more words with blanks between them, and perhaps one or two numbers in
parentheses behind them. `isTypeName_iff` says that the reader of type names takes just these, and
`neutral_of_isTypeName` that none of them holds a quote or a parenthesis left open.
-/
namespace CleanSql

namespace TypeText

/-- A text of one kind of characters, not empty. -/
def Run (kind : Char → Bool) (cs : List Char) : Prop := cs ≠ [] ∧ ∀ c ∈ cs, kind c

def Blanks (cs : List Char) : Prop := ∀ c ∈ cs, Text.isBlank c

def isWordChar (c : Char) : Bool := c.isAlphanum || c == '_'

/-- A letter, and then letters, digits and underscores, all of ASCII. -/
def Word (cs : List Char) : Prop := ∃ a r, cs = a :: r ∧ a.isAlpha ∧ ∀ c ∈ r, isWordChar c

inductive Words : List Char → Prop where
  | one {w : List Char} (h : Word w) : Words w
  | more {ws b w : List Char} (hs : Words ws) (hb : Run Text.isBlank b) (h : Word w) :
    Words (ws ++ b ++ w)

def Number (cs : List Char) : Prop :=
  ∃ b n g, Blanks b ∧ Run Text.isDecimalDigit n ∧ Blanks g ∧ cs = b ++ n ++ g

def Arguments (cs : List Char) : Prop :=
  (∃ n, Number n ∧ cs = '(' :: n ++ [')']) ∨
    ∃ n m, Number n ∧ Number m ∧ cs = '(' :: n ++ ',' :: m ++ [')']

end TypeText

open TypeText in
/-- Words, and perhaps arguments behind them. -/
def IsTypeText (cs : List Char) : Prop :=
  Words cs ∨ ∃ ws b as, Words ws ∧ Blanks b ∧ Arguments as ∧ cs = ws ++ b ++ as

namespace TypeText

def Gap (before : List Char → Prop) (cs : List Char) : Prop :=
  ∃ f b, before f ∧ Run Text.isBlank b ∧ cs = f ++ b

/-- A mark behind a text, with blanks on both sides of it. -/
def Marked (mark : Char) (before : List Char → Prop) (cs : List Char) : Prop :=
  ∃ f b g, before f ∧ Blanks b ∧ Blanks g ∧ cs = f ++ b ++ mark :: g

def Numbered (before : List Char → Prop) (cs : List Char) : Prop :=
  ∃ f n, before f ∧ Run Text.isDecimalDigit n ∧ cs = f ++ n

def Opened : List Char → Prop := Marked '(' Words

def First : List Char → Prop := Numbered Opened

def Comma : List Char → Prop := Marked ',' First

def Second : List Char → Prop := Numbered Comma

def Closed (cs : List Char) : Prop :=
  ∃ f b, (First f ∨ Second f) ∧ Blanks b ∧ cs = f ++ b ++ [')']

/-- What has been read in a state: a text that ends just there in the grammar. -/
def Language : TypeNameState → List Char → Prop
  | .start, cs => cs = []
  | .word, cs => Words cs
  | .gap, cs => Gap Words cs
  | .opened, cs => Opened cs
  | .first, cs => First cs
  | .firstGap, cs => Gap First cs
  | .comma, cs => Comma cs
  | .second, cs => Second cs
  | .secondGap, cs => Gap Second cs
  | .closed, cs => Closed cs
  | .failed, _ => True

section Further

variable {before : List Char → Prop} {cs : List Char} {c mark : Char}

theorem Run.snoc {kind : Char → Bool} (h : ∀ d ∈ cs, kind d) (hc : kind c) : Run kind (cs ++ [c]) :=
  ⟨by simp, by simpa [hc, or_imp, forall_and] using h⟩

theorem Blanks.snoc (h : Blanks cs) (hc : Text.isBlank c) : Blanks (cs ++ [c]) :=
  (Run.snoc h hc).2

theorem Word.snoc (h : Word cs) (hc : isWordChar c) : Word (cs ++ [c]) := by
  obtain ⟨a, r, rfl, ha, hr⟩ := h
  exact ⟨a, r ++ [c], rfl, ha, (Run.snoc hr hc).2⟩

theorem Words.snoc (h : Words cs) (hc : isWordChar c) : Words (cs ++ [c]) := by
  cases h with
  | one h => exact .one (h.snoc hc)
  | more hs hb h =>
    rw [List.append_assoc]
    exact .more hs hb (h.snoc hc)

theorem Word.single (hc : c.isAlpha) : Word [c] := ⟨c, [], rfl, hc, by simp⟩

theorem Gap.single (h : before cs) (hc : Text.isBlank c) : Gap before (cs ++ [c]) :=
  ⟨cs, [c], h, ⟨by simp, by simpa using hc⟩, rfl⟩

theorem Gap.snoc (h : Gap before cs) (hc : Text.isBlank c) : Gap before (cs ++ [c]) := by
  obtain ⟨f, b, hf, hb, rfl⟩ := h
  exact ⟨f, b ++ [c], hf, .snoc hb.2 hc, List.append_assoc f b [c]⟩

theorem Marked.single (h : before cs) : Marked mark before (cs ++ [mark]) :=
  ⟨cs, [], [], h, by simp [Blanks], by simp [Blanks], by simp⟩

theorem Marked.of_gap (h : Gap before cs) : Marked mark before (cs ++ [mark]) := by
  obtain ⟨f, b, hf, hb, rfl⟩ := h
  exact ⟨f, b, [], hf, hb.2, by simp [Blanks], rfl⟩

theorem Marked.snoc (h : Marked mark before cs) (hc : Text.isBlank c) :
    Marked mark before (cs ++ [c]) := by
  obtain ⟨f, b, g, hf, hb, hg, rfl⟩ := h
  exact ⟨f, b, g ++ [c], hf, hb, hg.snoc hc, by simp⟩

theorem Numbered.single (h : before cs) (hc : Text.isDecimalDigit c) :
    Numbered before (cs ++ [c]) :=
  ⟨cs, [c], h, ⟨by simp, by simpa using hc⟩, rfl⟩

theorem Numbered.snoc (h : Numbered before cs) (hc : Text.isDecimalDigit c) :
    Numbered before (cs ++ [c]) := by
  obtain ⟨f, n, hf, hn, rfl⟩ := h
  exact ⟨f, n ++ [c], hf, .snoc hn.2 hc, by simp⟩

theorem Closed.single (h : First cs ∨ Second cs) : Closed (cs ++ [')']) :=
  ⟨cs, [], h, by simp [Blanks], by simp⟩

theorem Closed.of_gap (h : Gap before cs) (hbefore : ∀ f, before f → First f ∨ Second f) :
    Closed (cs ++ [')']) := by
  obtain ⟨f, b, hf, hb, rfl⟩ := h
  exact ⟨f, b, hbefore f hf, hb.2, rfl⟩

/-- One character takes the text of a state to that of the next. -/
theorem language_step {s : TypeNameState} (h : Language s cs) :
    Language (s.step c) (cs ++ [c]) := by
  cases s with
  | start =>
    cases h
    simp only [TypeNameState.step]
    split_ifs with ha
    · exact .one (.single ha)
    · trivial
  | word =>
    simp only [TypeNameState.step]
    split_ifs with hw hb ho
    · exact Words.snoc h hw
    · exact Gap.single h hb
    · cases beq_iff_eq.mp ho
      exact Marked.single h
    · trivial
  | gap =>
    simp only [TypeNameState.step]
    split_ifs with hb ha ho
    · exact Gap.snoc h hb
    · obtain ⟨ws, b, hws, hb, rfl⟩ := h
      exact .more hws hb (.single ha)
    · cases beq_iff_eq.mp ho
      exact Marked.of_gap h
    · trivial
  | opened | comma =>
    simp only [TypeNameState.step]
    split_ifs with hb hd
    · exact Marked.snoc h hb
    · exact Numbered.single h hd
    · trivial
  | first =>
    simp only [TypeNameState.step]
    split_ifs with hd hb hc ho
    · exact Numbered.snoc h hd
    · exact Gap.single h hb
    · cases beq_iff_eq.mp hc
      exact Marked.single h
    · cases beq_iff_eq.mp ho
      exact Closed.single (.inl h)
    · trivial
  | firstGap =>
    simp only [TypeNameState.step]
    split_ifs with hb hc ho
    · exact Gap.snoc h hb
    · cases beq_iff_eq.mp hc
      exact Marked.of_gap h
    · cases beq_iff_eq.mp ho
      exact Closed.of_gap h fun _ => .inl
    · trivial
  | second =>
    simp only [TypeNameState.step]
    split_ifs with hd hb ho
    · exact Numbered.snoc h hd
    · exact Gap.single h hb
    · cases beq_iff_eq.mp ho
      exact Closed.single (.inr h)
    · trivial
  | secondGap =>
    simp only [TypeNameState.step]
    split_ifs with hb ho
    · exact Gap.snoc h hb
    · cases beq_iff_eq.mp ho
      exact Closed.of_gap h fun _ => .inr
    · trivial
  | closed | failed => trivial

end Further

theorem toNat_of_isBlank {c : Char} (h : Text.isBlank c) :
    c.toNat ≤ 0x20 ∨ c.toNat = 0x85 ∨ c.toNat = 0xA0 ∨ c.toNat = 0x1680 ∨
      (0x2000 ≤ c.toNat ∧ c.toNat ≤ 0x205F) ∨ c.toNat = 0x3000 := by
  simp only [Text.isBlank, Bool.or_eq_true, Bool.and_eq_true, decide_eq_true_eq, beq_iff_eq] at h
  omega

theorem not_isDecimalDigit_of_isBlank {c : Char} (h : Text.isBlank c) :
    Text.isDecimalDigit c = false := by
  have hc := toNat_of_isBlank h
  -- No script has its digits in the ranges where there are blanks.
  have hzeros : ∀ z ∈ Text.digitZeros, (0x30 ≤ z ∧ z ≤ 0x30) ∨ (0x660 ≤ z ∧ z ≤ 0x1090) ∨
      (0x17E0 ≤ z ∧ z ≤ 0x1C50) ∨ 0xA620 ≤ z := by decide
  rw [Bool.eq_false_iff]
  intro hd
  obtain ⟨z, hz, hle⟩ := List.any_eq_true.mp hd
  have hrange := hzeros z hz
  simp only [Bool.and_eq_true, decide_eq_true_eq] at hle
  omega

theorem toNat_of_isWordChar {c : Char} (h : isWordChar c) : 0x30 ≤ c.toNat ∧ c.toNat ≤ 0x7A := by
  have hranges : isWordChar c = ((((c.val ≥ 'A'.val ∧ c.val ≤ 'Z'.val : Bool) ||
      c.val ≥ 'a'.val && c.val ≤ 'z'.val) || c.val ≥ '0'.val && c.val ≤ '9'.val) || c == '_') := rfl
  simp only [hranges, Bool.or_eq_true, Bool.and_eq_true, decide_eq_true_eq, beq_iff_eq, ge_iff_le,
    UInt32.le_iff_toNat_le] at h
  rcases h with ((⟨hl, hu⟩ | ⟨hl, hu⟩) | ⟨hl, hu⟩) | rfl
  · exact ⟨Nat.le_trans (by decide) hl, Nat.le_trans hu (by decide)⟩
  · exact ⟨Nat.le_trans (by decide) hl, hu⟩
  · exact ⟨hl, Nat.le_trans hu (by decide)⟩
  · decide

theorem not_isWordChar_of_isBlank {c : Char} (h : Text.isBlank c) : isWordChar c = false := by
  rw [Bool.eq_false_iff]
  intro hw
  have hb := toNat_of_isBlank h
  have hr := toNat_of_isWordChar hw
  omega

theorem isWordChar_of_isAlpha {c : Char} (h : c.isAlpha) : isWordChar c := by
  have hword : isWordChar c = ((c.isAlpha || c.isDigit) || c == '_') := rfl
  rw [hword, h]
  rfl

section Runs

variable {kind : Char → Bool} {cs : List Char}

section

variable {σ : Type} {step : σ → Char → σ} {s t : σ}

theorem foldl_run (hs : ∀ c, kind c → step s c = t) (ht : ∀ c, kind c → step t c = t)
    (h : Run kind cs) : cs.foldl step s = t := by
  obtain ⟨hne, hall⟩ := h
  cases cs with
  | nil => exact absurd rfl hne
  | cons c cs =>
    rw [List.foldl_cons, hs c (hall c (by simp))]
    exact Automaton.foldl_same ht fun d hd => hall d (by simp [hd])

end

open TypeNameState
open Automaton (foldl_same)

variable {s : TypeNameState}

theorem step_word_of_isWordChar {c : Char} (h : isWordChar c) : word.step c = word := by
  simp only [isWordChar] at h
  simp [step, h]

theorem step_word_of_isBlank {c : Char} (h : Text.isBlank c) : word.step c = gap := by
  have hw := not_isWordChar_of_isBlank h
  simp only [isWordChar] at hw
  simp [step, hw, h]

theorem step_gap_of_isBlank {c : Char} (h : Text.isBlank c) : gap.step c = gap := by
  simp [step, h]

theorem step_gap_of_isAlpha {c : Char} (h : c.isAlpha) : gap.step c = word := by
  have hb : Text.isBlank c = false := by
    rw [Bool.eq_false_iff]
    intro hb
    have hw := not_isWordChar_of_isBlank hb
    rw [isWordChar_of_isAlpha h] at hw
    cases hw
  simp [step, hb, h]

theorem foldl_word (hs : ∀ c : Char, c.isAlpha → s.step c = word) (h : Word cs) :
    cs.foldl step s = word := by
  obtain ⟨a, r, rfl, ha, hr⟩ := h
  rw [List.foldl_cons, hs a ha]
  exact foldl_same (fun c hc => step_word_of_isWordChar hc) hr

theorem foldl_words (h : Words cs) : cs.foldl step start = word := by
  induction h with
  | one h => exact foldl_word (fun c hc => by simp [step, hc]) h
  | more hs hb h ih =>
    rw [List.foldl_append, List.foldl_append, ih,
      foldl_run (fun c hc => step_word_of_isBlank hc) (fun c hc => step_gap_of_isBlank hc) hb]
    exact foldl_word (fun c hc => step_gap_of_isAlpha hc) h

/-- Blanks before a parenthesis may be missing. -/
theorem foldl_opening (h : Blanks cs) : (cs ++ ['(']).foldl step word = opened := by
  rw [List.foldl_append]
  by_cases hne : cs = []
  · subst hne
    decide
  · rw [foldl_run (fun c hc => step_word_of_isBlank hc) (fun c hc => step_gap_of_isBlank hc)
      ⟨hne, h⟩]
    decide

theorem step_digit {c : Char} (h : Text.isDecimalDigit c) :
    opened.step c = first ∧ first.step c = first ∧ comma.step c = second ∧
      second.step c = second := by
  have hb : Text.isBlank c = false := by
    rw [Bool.eq_false_iff]
    intro hb
    rw [not_isDecimalDigit_of_isBlank hb] at h
    cases h
  simp [step, h, hb]

theorem step_blank {c : Char} (h : Text.isBlank c) :
    opened.step c = opened ∧ first.step c = firstGap ∧ firstGap.step c = firstGap ∧
      comma.step c = comma ∧ second.step c = secondGap ∧ secondGap.step c = secondGap := by
  simp [step, h, not_isDecimalDigit_of_isBlank h]

theorem foldl_number (h : Number cs) :
    (cs.foldl step opened = first ∨ cs.foldl step opened = firstGap) ∧
      (cs.foldl step comma = second ∨ cs.foldl step comma = secondGap) := by
  obtain ⟨b, n, g, hb, hn, hg, rfl⟩ := h
  simp only [List.foldl_append, foldl_same (fun c hc => (step_blank hc).1) hb,
    foldl_same (fun c hc => (step_blank hc).2.2.2.1) hb,
    foldl_run (fun c hc => (step_digit hc).1) (fun c hc => (step_digit hc).2.1) hn,
    foldl_run (fun c hc => (step_digit hc).2.2.1) (fun c hc => (step_digit hc).2.2.2) hn]
  by_cases hne : g = []
  · subst hne
    exact ⟨.inl rfl, .inl rfl⟩
  · exact ⟨.inr (foldl_run (fun c hc => (step_blank hc).2.1)
        (fun c hc => (step_blank hc).2.2.1) ⟨hne, hg⟩),
      .inr (foldl_run (fun c hc => (step_blank hc).2.2.2.2.1)
        (fun c hc => (step_blank hc).2.2.2.2.2) ⟨hne, hg⟩)⟩

theorem foldl_arguments {b : List Char} (hb : Blanks b) (h : Arguments cs) :
    (b ++ cs).foldl step word = closed := by
  have hcomma : first.step ',' = comma ∧ firstGap.step ',' = comma := by decide
  have hclose : first.step ')' = closed ∧ firstGap.step ')' = closed ∧
      second.step ')' = closed ∧ secondGap.step ')' = closed := by decide
  obtain ⟨n, hn, rfl⟩ | ⟨n, m, hn, hm, rfl⟩ := h
  · have hsplit : b ++ ('(' :: n ++ [')']) = (b ++ ['(']) ++ (n ++ [')']) := by simp
    rw [hsplit, List.foldl_append, foldl_opening hb, List.foldl_append]
    obtain ⟨h | h, -⟩ := foldl_number hn
    · rw [h]
      exact hclose.1
    · rw [h]
      exact hclose.2.1
  · have hsplit : b ++ ('(' :: n ++ ',' :: m ++ [')']) =
        (b ++ ['(']) ++ (n ++ ([','] ++ (m ++ [')']))) := by simp
    have hfirst : (n ++ [',']).foldl step opened = comma := by
      rw [List.foldl_append]
      obtain ⟨h | h, -⟩ := foldl_number hn
      · rw [h]
        exact hcomma.1
      · rw [h]
        exact hcomma.2
    rw [hsplit, List.foldl_append, foldl_opening hb, ← List.append_assoc n, List.foldl_append,
      hfirst, List.foldl_append]
    obtain ⟨-, h | h⟩ := foldl_number hm
    · rw [h]
      exact hclose.2.2.1
    · rw [h]
      exact hclose.2.2.2

end Runs

theorem isTypeText_of_closed {cs : List Char} (h : Closed cs) : IsTypeText cs := by
  obtain ⟨f, g, hf | hf, hg, rfl⟩ := h
  · obtain ⟨o, n, ⟨ws, b, g', hws, hb, hg', rfl⟩, hn, rfl⟩ := hf
    exact .inr ⟨ws, b, _, hws, hb, .inl ⟨g' ++ n ++ g, ⟨g', n, g, hg', hn, hg, rfl⟩, rfl⟩,
      by simp⟩
  · obtain ⟨o, m, ⟨f, e, d, hf, he, hd, rfl⟩, hm, rfl⟩ := hf
    obtain ⟨o, n, ⟨ws, b, g', hws, hb, hg', rfl⟩, hn, rfl⟩ := hf
    exact .inr ⟨ws, b, _, hws, hb, .inr ⟨g' ++ n ++ e, d ++ m ++ g,
      ⟨g', n, e, hg', hn, he, rfl⟩, ⟨d, m, g, hd, hm, hg, rfl⟩, rfl⟩, by simp⟩

end TypeText

open TypeText in
theorem isTypeName_iff (text : String) : isTypeName text ↔ IsTypeText text.toList := by
  unfold isTypeName
  constructor
  · intro h
    have hl : Language (text.toList.foldl TypeNameState.step .start) text.toList :=
      Automaton.language_foldl rfl language_step
    generalize text.toList.foldl TypeNameState.step .start = s at h hl
    cases s with
    | word => exact .inl hl
    | closed => exact isTypeText_of_closed hl
    | _ => cases h
  · rintro (h | ⟨ws, b, as, hws, hb, has, h⟩)
    · rw [foldl_words h]
      rfl
    · rw [h, List.append_assoc, List.foldl_append, foldl_words hws, foldl_arguments hb has]
      rfl

namespace TypeNameState

def depth : TypeNameState → Nat
  | opened | first | firstGap | comma | second | secondGap => 1
  | start | word | gap | closed | failed => 0

/-- No character that is taken is a quote, and a parenthesis is taken only where it fits. -/
theorem scan_step (p : Profile) {s : TypeNameState} {c : Char} (h : s.step c ≠ failed) :
    ScanState.step p ⟨.code, s.depth⟩ c = some ⟨.code, (s.step c).depth⟩ := by
  have hblank (hb : Text.isBlank c) : isPlain c := isPlain_of_kind (by decide) hb
  have hdigit (hd : Text.isDecimalDigit c) : isPlain c := isPlain_of_kind (by decide) hd
  have halpha (ha : c.isAlpha) : isPlain c := isPlain_of_kind (by decide) ha
  have hword (hw : (c.isAlphanum || c == '_') = true) : isPlain c :=
    isPlain_of_kind (k := TypeText.isWordChar) (by decide) hw
  have hcomma (hc : (c == ',') = true) : isPlain c :=
    isPlain_of_kind (k := (· == ',')) (by decide) hc
  have hopen (ho : (c == '(') = true) : ScanState.step p ⟨.code, 0⟩ c = some ⟨.code, 1⟩ := by
    cases beq_iff_eq.mp ho
    cases h : p.identifierQuote <;>
      simp [ScanState.step, LexMode.step, LexMode.enter, IdentifierQuote.opening, h, ScanState.turn]
  have hclose (ho : (c == ')') = true) : ScanState.step p ⟨.code, 1⟩ c = some ⟨.code, 0⟩ := by
    cases beq_iff_eq.mp ho
    cases h : p.identifierQuote <;>
      simp [ScanState.step, LexMode.step, LexMode.enter, IdentifierQuote.opening, h, ScanState.turn]
  cases s with
  | closed | failed => exact absurd rfl h
  | _ =>
    simp only [step] at h ⊢
    split_ifs at h ⊢ <;> simp_all [depth, ScanState.step_of_isPlain]

end TypeNameState

theorem neutral_of_isTypeName {p : Profile} {text : String} (h : isTypeName text) :
    Neutral p text := by
  have hs : text.toList.foldl TypeNameState.step .start ≠ .failed →
      ScanState.run p ⟨.code, 0⟩ text.toList =
        some ⟨.code, (text.toList.foldl TypeNameState.step .start).depth⟩ := by
    refine Automaton.language_foldl
      (L := fun (s : TypeNameState) cs =>
        s ≠ .failed → ScanState.run p ⟨.code, 0⟩ cs = some ⟨.code, s.depth⟩)
      (fun _ => rfl) fun {s cs c} hs hc => ?_
    have hne : s ≠ .failed := by
      rintro rfl
      exact hc rfl
    rw [ScanState.run_append, hs hne, Option.bind_some, ScanState.run_cons,
      TypeNameState.scan_step p hc, Option.bind_some, ScanState.run_nil]
  unfold isTypeName at h
  generalize text.toList.foldl TypeNameState.step .start = s at h hs
  refine neutral_of_run (m := .code) rfl ?_
  cases s with
  | word | closed => exact hs nofun
  | _ => cases h

end CleanSql
