import Mathlib.Computability.RegularExpressions
import CleanSql.Fragment.Text
import CleanSql.Proofs.Quoting.Literal

/-!
# Delimiters that are patterns

Where a text is split at the matches of a pattern, its delimiter is escaped twice, first as a
pattern and then as a literal. The literal is read back as the pattern, and the pattern as one
without operators that matches the delimiter and nothing else (`Pattern.readPlain_escapeRegex`), so
that neither layer shows (`Profile.writeSplit_spark_pattern`).
-/
namespace CleanSql

namespace Pattern

/-- The characters that do not stand for themselves in a pattern. -/
def isOperator (c : Char) : Bool :=
  ['\\', '.', '+', '*', '?', '(', ')', '|', '[', ']', '\x7b', '\x7d', '^', '$'].contains c

/-- Reads a pattern that has no operators. A backslash gives the character behind it as it is, but
letters and digits get a meaning of their own. -/
def readPlain : List Char → Option (RegularExpression Char)
  | [] => some 1
  | ['\\'] => none
  | '\\' :: c :: cs => if c.isAlphanum then none else (readPlain cs).map (.char c * ·)
  | c :: cs => if isOperator c then none else (readPlain cs).map (.char c * ·)

theorem readPlain_escaped {c : Char} (h : c.isAlphanum = false) (cs : List Char) :
    readPlain ('\\' :: c :: cs) = (readPlain cs).map (.char c * ·) := by
  rw [readPlain, if_neg (by simp [h])]

theorem readPlain_plain {c : Char} (h : isOperator c = false) (cs : List Char) :
    readPlain (c :: cs) = (readPlain cs).map (.char c * ·) := by
  have hback : c ≠ '\\' := by
    rintro rfl
    cases h
  rw [readPlain]
  · rw [if_neg (by simp [h])]
  · simp [hback]
  · simp [hback]

theorem isAlphanum_of_isRegexMeta {c : Char} (h : isRegexMeta c) : c.isAlphanum = false := by
  have hall : ['\\', '.', '+', '*', '?', '(', ')', '|', '[', ']', '\x7b', '\x7d', '^', '$',
      '#', '&', '-', '~'].any Char.isAlphanum = false := by
    decide
  exact Bool.eq_false_iff.mpr (List.any_eq_false.mp hall c (List.contains_iff_mem.mp h))

/-- All operators are escaped, and some other characters too. -/
theorem isRegexMeta_of_isOperator {c : Char} (h : isOperator c) : isRegexMeta c := by
  have hall : ['\\', '.', '+', '*', '?', '(', ')', '|', '[', ']', '\x7b', '\x7d', '^',
      '$'].all isRegexMeta := by
    decide
  exact List.all_eq_true.mp hall c (List.contains_iff_mem.mp h)

theorem readPlain_escape (c : Char) (cs : List Char) :
    readPlain ((if isRegexMeta c then ['\\', c] else [c]) ++ cs) =
      (readPlain cs).map (.char c * ·) := by
  split_ifs with h
  · exact readPlain_escaped (isAlphanum_of_isRegexMeta h) cs
  · have hplain : isOperator c = false := by
      rw [Bool.eq_false_iff]
      exact fun hop => h (isRegexMeta_of_isOperator hop)
    exact readPlain_plain hplain cs

theorem matches_char_mul {c : Char} {r : RegularExpression Char} {text : List Char}
    (h : r.matches' = {text}) : (RegularExpression.char c * r).matches' = {c :: text} := by
  rw [RegularExpression.matches'_mul, RegularExpression.matches'_char, h, Language.mul_def]
  exact Set.image2_singleton

/-- An escaped text is a pattern for this text and no other. -/
theorem readPlain_escapeRegex (text : String) :
    ∃ r, readPlain (escapeRegex text).toList = some r ∧ r.matches' = {text.toList} := by
  rw [escapeRegex, String.toList_ofList]
  induction text.toList with
  | nil => exact ⟨1, rfl, RegularExpression.matches'_epsilon⟩
  | cons c cs ih =>
    obtain ⟨r, hread, hmatches⟩ := ih
    refine ⟨.char c * r, ?_, matches_char_mul hmatches⟩
    rw [List.flatMap_cons, readPlain_escape, hread, Option.map_some]

end Pattern

namespace Profile

theorem writeSplit_of_regexArray {p : Profile} {name : String} (h : p.split = .regexArray name)
    (delimiter e : String) (index : UInt64) :
    p.writeSplit delimiter index e = .exact (name ++ "(" ++ e ++ ", " ++
      (p.quoteLiteral (escapeRegex delimiter) ++ (")[" ++ toString index ++ "]"))) := by
  simp only [writeSplit, h, SplitForm.base?, Option.elim_some, IndexBase.native?,
    String.append_assoc]

/-- A split by a pattern is always written, and its second argument is a literal whose value is a
pattern without operators that matches just the delimiter. -/
theorem writeSplit_spark_pattern (delimiter e : String) (index : UInt64) :
    ∃ arguments pattern r,
      Dialect.spark.profile.writeSplit delimiter index e =
        .exact ("SPLIT(" ++ e ++ ", " ++ arguments) ∧
      Dialect.spark.profile.readLiteral arguments =
        some (pattern, ")[" ++ toString index ++ "]") ∧
      Pattern.readPlain pattern.toList = some r ∧ r.matches' = {delimiter.toList} := by
  obtain ⟨r, hread, hmatches⟩ := Pattern.readPlain_escapeRegex delimiter
  have hrest : (")[" ++ toString index ++ "]").toList.head? ≠ some '\'' := by
    simp
  obtain ⟨hliteral, -⟩ := readLiteral_quoteLiteral .spark (escapeRegex delimiter) hrest
  have hcall : "SPLIT(" = "SPLIT" ++ "(" := rfl
  refine ⟨_, escapeRegex delimiter, r, ?_, hliteral, hread, hmatches⟩
  rw [hcall]
  exact writeSplit_of_regexArray rfl delimiter e index

end Profile

end CleanSql
