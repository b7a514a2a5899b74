import CleanSql.Fragment.Literal
import CleanSql.Proofs.TypeText

/-!
# The grammar of numbers

A number is digits, perhaps with a fraction, or a fraction alone; there may be a sign before it and
an exponent behind it. `isNumeral_iff` says that the reader of numbers takes just these.
-/
namespace CleanSql

namespace NumeralText

open TypeText (Run)

def Digits (cs : List Char) : Prop := Run Text.isDecimalDigit cs

def Sign (cs : List Char) : Prop := cs = [] ∨ cs = ['+'] ∨ cs = ['-']

/-- Digits and a point, perhaps with further digits behind it, or a point and digits. -/
def Fraction (cs : List Char) : Prop :=
  (∃ n m, Digits n ∧ (∀ c ∈ m, Text.isDecimalDigit c) ∧ cs = n ++ '.' :: m) ∨
    ∃ m, Digits m ∧ cs = '.' :: m

def Mantissa (cs : List Char) : Prop := Digits cs ∨ Fraction cs

def Exponent (cs : List Char) : Prop :=
  ∃ mark s n, (mark = 'e' ∨ mark = 'E') ∧ Sign s ∧ Digits n ∧ cs = mark :: s ++ n

end NumeralText

open NumeralText in
/-- A mantissa, perhaps with a sign before it and an exponent behind it. -/
def IsNumeralText (cs : List Char) : Prop :=
  ∃ s m, Sign s ∧ Mantissa m ∧ (cs = s ++ m ∨ ∃ e, Exponent e ∧ cs = s ++ m ++ e)

namespace NumeralText

/-- What has been read in a state: a text that ends just there in the grammar. -/
def Language : NumeralState → List Char → Prop
  | .start, cs => cs = []
  | .signed, cs => cs = ['+'] ∨ cs = ['-']
  | .whole, cs => ∃ s n, Sign s ∧ Digits n ∧ cs = s ++ n
  | .barePoint, cs => ∃ s, Sign s ∧ cs = s ++ ['.']
  | .fraction, cs => ∃ s m, Sign s ∧ Fraction m ∧ cs = s ++ m
  | .exponent, cs =>
    ∃ s m mark, Sign s ∧ Mantissa m ∧ (mark = 'e' ∨ mark = 'E') ∧ cs = s ++ m ++ [mark]
  | .exponentSigned, cs =>
    ∃ s m mark g, Sign s ∧ Mantissa m ∧ (mark = 'e' ∨ mark = 'E') ∧ (g = '+' ∨ g = '-') ∧
      cs = s ++ m ++ [mark, g]
  | .exponentDigits, cs => ∃ s m e, Sign s ∧ Mantissa m ∧ Exponent e ∧ cs = s ++ m ++ e
  | .failed, _ => True

theorem isSign_iff {c : Char} : NumeralState.isSign c ↔ c = '+' ∨ c = '-' := by
  simp [NumeralState.isSign]

theorem isExponentMark_iff {c : Char} : NumeralState.isExponentMark c ↔ c = 'e' ∨ c = 'E' := by
  simp [NumeralState.isExponentMark]

theorem Digits.single {c : Char} (h : Text.isDecimalDigit c) : Digits [c] :=
  ⟨by simp, by simpa using h⟩

theorem Digits.snoc {cs : List Char} {c : Char} (h : ∀ d ∈ cs, Text.isDecimalDigit d)
    (hc : Text.isDecimalDigit c) : Digits (cs ++ [c]) := TypeText.Run.snoc h hc

theorem Fraction.snoc {cs : List Char} {c : Char} (h : Fraction cs) (hc : Text.isDecimalDigit c) :
    Fraction (cs ++ [c]) := by
  obtain ⟨n, m, hn, hm, rfl⟩ | ⟨m, hm, rfl⟩ := h
  · exact .inl ⟨n, m ++ [c], hn, (Digits.snoc hm hc).2, by simp⟩
  · exact .inr ⟨m ++ [c], .snoc hm.2 hc, rfl⟩

theorem Sign.single {c : Char} (h : NumeralState.isSign c) : Sign [c] := by
  obtain rfl | rfl := isSign_iff.mp h
  · exact .inr (.inl rfl)
  · exact .inr (.inr rfl)

/-- One character takes the text of a state to that of the next. -/
theorem language_step {s : NumeralState} {cs : List Char} {c : Char} (h : Language s cs) :
    Language (s.step c) (cs ++ [c]) := by
  cases s with
  | start =>
    cases h
    simp only [NumeralState.step]
    split_ifs with hsign hdigit hpoint
    · obtain rfl | rfl := isSign_iff.mp hsign
      · exact .inl rfl
      · exact .inr rfl
    · exact ⟨[], [c], .inl rfl, .single hdigit, rfl⟩
    · cases beq_iff_eq.mp hpoint
      exact ⟨[], .inl rfl, rfl⟩
    · trivial
  | signed =>
    have hsign : Sign cs := .inr h
    simp only [NumeralState.step]
    split_ifs with hdigit hpoint
    · exact ⟨cs, [c], hsign, .single hdigit, rfl⟩
    · cases beq_iff_eq.mp hpoint
      exact ⟨cs, hsign, rfl⟩
    · trivial
  | whole =>
    obtain ⟨s, n, hsign, hn, rfl⟩ := h
    simp only [NumeralState.step]
    split_ifs with hdigit hpoint hmark
    · exact ⟨s, n ++ [c], hsign, .snoc hn.2 hdigit, by simp⟩
    · cases beq_iff_eq.mp hpoint
      exact ⟨s, n ++ ['.'], hsign, .inl ⟨n, [], hn, by simp, rfl⟩, by simp⟩
    · exact ⟨s, n, c, hsign, .inl hn, isExponentMark_iff.mp hmark, rfl⟩
    · trivial
  | barePoint =>
    obtain ⟨s, hsign, rfl⟩ := h
    simp only [NumeralState.step]
    split_ifs with hdigit
    · exact ⟨s, ['.', c], hsign, .inr ⟨[c], .single hdigit, rfl⟩, by simp⟩
    · trivial
  | fraction =>
    obtain ⟨s, m, hsign, hm, rfl⟩ := h
    simp only [NumeralState.step]
    split_ifs with hdigit hmark
    · exact ⟨s, m ++ [c], hsign, hm.snoc hdigit, by simp⟩
    · exact ⟨s, m, c, hsign, .inr hm, isExponentMark_iff.mp hmark, rfl⟩
    · trivial
  | exponent =>
    obtain ⟨s, m, mark, hsign, hm, hmark, rfl⟩ := h
    simp only [NumeralState.step]
    split_ifs with hg hdigit
    · exact ⟨s, m, mark, c, hsign, hm, hmark, isSign_iff.mp hg, by simp⟩
    · exact ⟨s, m, [mark, c], hsign, hm, ⟨mark, [], [c], hmark, .inl rfl, .single hdigit, rfl⟩,
        by simp⟩
    · trivial
  | exponentSigned =>
    obtain ⟨s, m, mark, g, hsign, hm, hmark, hg, rfl⟩ := h
    simp only [NumeralState.step]
    split_ifs with hdigit
    · exact ⟨s, m, [mark, g, c], hsign, hm,
        ⟨mark, [g], [c], hmark, .single (isSign_iff.mpr hg), .single hdigit, rfl⟩, by simp⟩
    · trivial
  | exponentDigits =>
    obtain ⟨s, m, e, hsign, hm, ⟨mark, g, n, hmark, hg, hn, rfl⟩, rfl⟩ := h
    simp only [NumeralState.step]
    split_ifs with hdigit
    · exact ⟨s, m, mark :: g ++ (n ++ [c]), hsign, hm,
        ⟨mark, g, n ++ [c], hmark, hg, .snoc hn.2 hdigit, rfl⟩, by simp⟩
    · trivial
  | failed => trivial

section Runs

open NumeralState
open Automaton (foldl_same)
open TypeText (foldl_run)

variable {cs : List Char}

theorem not_isSign_of_isDecimalDigit {c : Char} (h : Text.isDecimalDigit c) : isSign c = false := by
  rw [Bool.eq_false_iff]
  intro hsign
  obtain rfl | rfl := isSign_iff.mp hsign
  · exact absurd h (by decide)
  · exact absurd h (by decide)

theorem step_digit {c : Char} (h : Text.isDecimalDigit c) :
    start.step c = whole ∧ signed.step c = whole ∧ whole.step c = whole ∧
      barePoint.step c = fraction ∧ fraction.step c = fraction ∧
      exponent.step c = exponentDigits ∧ exponentSigned.step c = exponentDigits ∧
      exponentDigits.step c = exponentDigits := by
  simp [step, h, not_isSign_of_isDecimalDigit h]

theorem foldl_whole (h : Digits cs) :
    cs.foldl step start = whole ∧ cs.foldl step signed = whole :=
  ⟨foldl_run (fun _ hc => (step_digit hc).1) (fun _ hc => (step_digit hc).2.2.1) h,
    foldl_run (fun _ hc => (step_digit hc).2.1) (fun _ hc => (step_digit hc).2.2.1) h⟩

theorem foldl_fraction (h : Fraction cs) :
    cs.foldl step start = fraction ∧ cs.foldl step signed = fraction := by
  have hpoint : start.step '.' = barePoint ∧ signed.step '.' = barePoint ∧
      whole.step '.' = fraction := by decide
  obtain ⟨n, m, hn, hm, rfl⟩ | ⟨m, hm, rfl⟩ := h
  · have hrest : m.foldl step fraction = fraction :=
      foldl_same (fun _ hc => (step_digit hc).2.2.2.2.1) hm
    simp only [List.foldl_append, List.foldl_cons, (foldl_whole hn).1, (foldl_whole hn).2,
      hpoint.2.2, hrest, and_self]
  · have hrest : m.foldl step barePoint = fraction :=
      foldl_run (fun _ hc => (step_digit hc).2.2.2.1) (fun _ hc => (step_digit hc).2.2.2.2.1) hm
    simp only [List.foldl_cons, hpoint.1, hpoint.2.1, hrest, and_self]

theorem foldl_mantissa {s m : List Char} (hs : Sign s) (hm : Mantissa m) :
    (s ++ m).foldl step start = whole ∨ (s ++ m).foldl step start = fraction := by
  have hboth : (m.foldl step start = whole ∧ m.foldl step signed = whole) ∨
      (m.foldl step start = fraction ∧ m.foldl step signed = fraction) :=
    hm.imp foldl_whole foldl_fraction
  have hsign : s.foldl step start = start ∨ s.foldl step start = signed := by
    obtain rfl | rfl | rfl := hs <;> decide
  rw [List.foldl_append]
  obtain h | h := hsign
  · rw [h]
    exact hboth.imp And.left And.left
  · rw [h]
    exact hboth.imp And.right And.right

theorem foldl_exponent {s : NumeralState} (hs : s = whole ∨ s = fraction) (h : Exponent cs) :
    cs.foldl step s = exponentDigits := by
  obtain ⟨mark, g, n, hmark, hg, hn, rfl⟩ := h
  have hmark : s.step mark = exponent := by
    obtain rfl | rfl := hs <;> obtain rfl | rfl := hmark <;> decide
  rw [List.cons_append, List.foldl_cons, hmark, List.foldl_append]
  have hdigits (t : NumeralState) (ht : t = exponent ∨ t = exponentSigned) :
      n.foldl step t = exponentDigits := by
    obtain rfl | rfl := ht
    · exact foldl_run (fun _ hc => (step_digit hc).2.2.2.2.2.1)
        (fun _ hc => (step_digit hc).2.2.2.2.2.2.2) hn
    · exact foldl_run (fun _ hc => (step_digit hc).2.2.2.2.2.2.1)
        (fun _ hc => (step_digit hc).2.2.2.2.2.2.2) hn
  obtain rfl | rfl | rfl := hg
  · exact hdigits _ (.inl rfl)
  · exact hdigits _ (.inr (by decide))
  · exact hdigits _ (.inr (by decide))

end Runs

end NumeralText

open NumeralText in
theorem isNumeral_iff (text : String) : isNumeral text ↔ IsNumeralText text.toList := by
  unfold isNumeral
  constructor
  · intro h
    have hl : Language (text.toList.foldl NumeralState.step .start) text.toList :=
      Automaton.language_foldl rfl language_step
    generalize text.toList.foldl NumeralState.step .start = s at h hl
    cases s with
    | whole =>
      obtain ⟨s, n, hs, hn, hcs⟩ := hl
      exact ⟨s, n, hs, .inl hn, .inl hcs⟩
    | fraction =>
      obtain ⟨s, m, hs, hm, hcs⟩ := hl
      exact ⟨s, m, hs, .inr hm, .inl hcs⟩
    | exponentDigits =>
      obtain ⟨s, m, e, hs, hm, he, hcs⟩ := hl
      exact ⟨s, m, hs, hm, .inr ⟨e, he, hcs⟩⟩
    | _ => cases h
  · rintro ⟨s, m, hs, hm, h | ⟨e, he, h⟩⟩
    · rw [h]
      obtain hread | hread := foldl_mantissa hs hm <;> rw [hread] <;> rfl
    · rw [h, List.foldl_append, foldl_exponent (foldl_mantissa hs hm) he]
      rfl

instance (cs : List Char) : Decidable (IsNumeralText cs) :=
  decidable_of_iff (isNumeral (String.ofList cs))
    (by rw [isNumeral_iff, String.toList_ofList])

example : IsNumeralText "-1.5e+10".toList ∧ ¬ IsNumeralText "1e".toList := by decide

end CleanSql
