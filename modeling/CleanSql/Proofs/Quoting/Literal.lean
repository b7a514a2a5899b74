import CleanSql.Proofs.Lexical

/-!
# Readers of quoted texts

A quoted text is read by the rule of its quotes: which character ends it, whether two of these stand
for one, and what a backslash takes from the character behind it. A text that is written character
by character so that the rule gives each of them back is read back as a whole, and what stands
behind its quote is left (`QuoteRule.read_quoted`). String literals are written like that in every
dialect (`Profile.readLiteral_quoteLiteral`).
-/
namespace CleanSql

structure QuoteRule where
  opening : Char
  closing : Char
  /-- Whether two closing characters inside stand for one. -/
  doubles : Bool
  /-- What a backslash stands for together with the character behind it; none if a backslash is a
  character like any other. -/
  escapes : Option (Char → Option Char)

namespace QuoteRule

def push (c : Char) (r : List Char × List Char) : List Char × List Char := (c :: r.1, r.2)

/-- Reads a quoted text from behind its opening character: its value, and what is left behind its
closing character. -/
def readBody (q : QuoteRule) : List Char → Option (List Char × List Char)
  | [] => none
  | [c] => if c = q.closing then some ([], []) else none
  | c :: next :: rest =>
    if c = q.closing then
      if q.doubles && next = q.closing then (q.readBody rest).map (push c)
      else some ([], next :: rest)
    else
      match if c = '\\' then q.escapes else none with
      | some decode => (decode next).bind fun value => (q.readBody rest).map (push value)
      | none => (q.readBody (next :: rest)).map (push c)

def read (q : QuoteRule) : List Char → Option (List Char × List Char)
  | [] => none
  | c :: body => if c = q.opening then q.readBody body else none

def readText (q : QuoteRule) (text : String) : Option (String × String) :=
  (q.read text.toList).map fun r => (String.ofList r.1, String.ofList r.2)

/-- What is written for a character is read as this character. -/
def Encodes (q : QuoteRule) (f : Char → List Char) : Prop :=
  ∀ c rest, q.readBody (f c ++ rest) = (q.readBody rest).map (push c)

variable {q : QuoteRule}

theorem readBody_plain {c : Char} (hc : c ≠ q.closing) (hplain : c = '\\' → q.escapes = none)
    (rest : List Char) : q.readBody (c :: rest) = (q.readBody rest).map (push c) := by
  have hnone : (if c = '\\' then q.escapes else none) = none := by
    split_ifs with h
    · exact hplain h
    · rfl
  cases rest with
  | nil => simp [readBody, hc]
  | cons next rest => simp [readBody, hc, hnone]

theorem readBody_doubled (h : q.doubles) (rest : List Char) :
    q.readBody (q.closing :: q.closing :: rest) = (q.readBody rest).map (push q.closing) := by
  simp [readBody, h]

theorem readBody_escaped {c value : Char} (h : (q.escapes.bind fun decode => decode c) = some value)
    (hclosing : q.closing ≠ '\\') (rest : List Char) :
    q.readBody ('\\' :: c :: rest) = (q.readBody rest).map (push value) := by
  obtain ⟨decode, hescapes, hvalue⟩ := Option.bind_eq_some_iff.mp h
  simp [readBody, hescapes, hclosing.symm, hvalue]

theorem readBody_closing {rest : List Char} (h : q.doubles → rest.head? ≠ some q.closing) :
    q.readBody (q.closing :: rest) = some ([], rest) := by
  cases rest with
  | nil => simp [readBody]
  | cons next rest =>
    have hnext : ¬ (q.doubles && decide (next = q.closing)) := by
      simpa using h
    simp [readBody, hnext]

theorem readBody_flatMap {f : Char → List Char} (hf : q.Encodes f) {rest : List Char}
    (h : q.doubles → rest.head? ≠ some q.closing) (value : List Char) :
    q.readBody (value.flatMap f ++ q.closing :: rest) = some (value, rest) := by
  induction value with
  | nil => exact readBody_closing h
  | cons c value ih => rw [List.flatMap_cons, List.append_assoc, hf, ih, Option.map_some, push]

/-- A quoted text is read back, up to its closing character and no further. -/
theorem read_quoted {f : Char → List Char} (hf : q.Encodes f) {rest : List Char}
    (h : q.doubles → rest.head? ≠ some q.closing) (value : List Char) :
    q.read (q.opening :: value.flatMap f ++ [q.closing] ++ rest) = some (value, rest) := by
  rw [List.append_assoc, List.singleton_append, List.cons_append, read, if_pos rfl,
    readBody_flatMap hf h]

theorem readText_append {text value rest : String}
    (h : q.read (text.toList ++ rest.toList) = some (value.toList, rest.toList)) :
    q.readText (text ++ rest) = some (value, rest) := by
  rw [readText, String.toList_append, h, Option.map_some, String.ofList_toList,
    String.ofList_toList]

theorem length_lt_of_readBody {cs : List Char} {r : List Char × List Char}
    (h : q.readBody cs = some r) : r.2.length < cs.length := by
  have hpush {cs : List Char} {c : Char} (ih : ∀ r, q.readBody cs = some r → r.2.length < cs.length)
      {r : List Char × List Char} (h : (q.readBody cs).map (push c) = some r) :
      r.2.length < cs.length := by
    obtain ⟨s, hs, rfl⟩ := Option.map_eq_some_iff.mp h
    exact ih s hs
  fun_induction readBody q cs generalizing r with
  | case1 => cases h
  | case2 =>
    cases h
    exact Nat.zero_lt_one
  | case3 => cases h
  | case4 next rest _ ih => exact Nat.lt_add_right 1 (Nat.lt_succ_of_lt (hpush (fun _ => ih) h))
  | case5 =>
    cases h
    exact Nat.lt_succ_self _
  | case6 c next rest _ decode _ ih =>
    obtain ⟨value, -, hvalue⟩ := Option.bind_eq_some_iff.mp h
    exact Nat.lt_add_right 1 (Nat.lt_succ_of_lt (hpush (fun _ => ih) hvalue))
  | case7 c next rest _ _ ih => exact Nat.lt_succ_of_lt (hpush (fun _ => ih) h)

theorem length_lt_of_read {cs : List Char} {r : List Char × List Char} (h : q.read cs = some r) :
    r.2.length < cs.length := by
  cases cs with
  | nil => cases h
  | cons c body =>
    rw [read] at h
    split_ifs at h
    exact Nat.lt_succ_of_lt (length_lt_of_readBody h)

end QuoteRule

namespace LiteralEscape

def rule : LiteralEscape → QuoteRule
  | doubled => { opening := '\'', closing := '\'', doubles := true, escapes := none }
  | doubledWithBackslash =>
    { opening := '\'', closing := '\'', doubles := true
      escapes := some fun
        | '\'' => some '\''
        | '\\' => some '\\'
        | _ => none }
  | backslash =>
    { opening := '\'', closing := '\'', doubles := false
      escapes := some fun
        | '\'' => some '\''
        | '\\' => some '\\'
        | 'n' => some '\n'
        | 'r' => some '\r'
        | _ => none }

variable (l : LiteralEscape)

@[simp] theorem opening_rule : l.rule.opening = '\'' := by cases l <;> rfl

@[simp] theorem closing_rule : l.rule.closing = '\'' := by cases l <;> rfl

theorem encodes_escape : l.rule.Encodes l.escape := by
  intro c rest
  unfold escape
  split
  case h_1 | h_2 => exact QuoteRule.readBody_doubled rfl rest
  case h_3 | h_4 | h_5 | h_6 | h_7 => exact QuoteRule.readBody_escaped rfl (by decide) rest
  case h_8 =>
    refine QuoteRule.readBody_plain ?_ ?_ rest
    · rw [closing_rule]
      rintro rfl
      cases l <;> trivial
    · rintro rfl
      cases l <;> trivial

/-- An end of a line is not written as it is where a backslash can say it. -/
theorem backslash_escape_ne (c : Char) : ∀ x ∈ backslash.escape c, x ≠ '\n' ∧ x ≠ '\r' := by
  unfold escape
  split
  case h_8 hnewline hreturn =>
    rw [List.forall_mem_singleton]
    exact ⟨hnewline rfl, hreturn rfl⟩
  all_goals simp

end LiteralEscape

namespace Profile

variable (p : Profile)

/-- Reads a string literal at the start of a text: its value, and the text behind it. -/
def readLiteral (text : String) : Option (String × String) := p.literalEscape.rule.readText text

theorem read_quoteLiteral (value : String) {rest : List Char}
    (h : p.literalEscape.rule.doubles → rest.head? ≠ some '\'') :
    p.literalEscape.rule.read ((p.quoteLiteral value).toList ++ rest) =
      some (value.toList, rest) := by
  have hread := QuoteRule.read_quoted p.literalEscape.encodes_escape
    (by simpa only [LiteralEscape.closing_rule] using h) value.toList
  rwa [LiteralEscape.opening_rule, LiteralEscape.closing_rule, ← toList_quoteLiteral] at hread

/-- A string literal is read back in its dialect, and the reader stops right behind it, whatever
stands there but for a quote. In the dialects that escape by a backslash only, a literal stays on
its line. -/
theorem readLiteral_quoteLiteral (d : Dialect) (value : String) {rest : String}
    (h : rest.toList.head? ≠ some '\'') :
    d.profile.readLiteral (d.profile.quoteLiteral value ++ rest) = some (value, rest) ∧
      (d.profile.literalEscape = .backslash →
        ∀ c ∈ (d.profile.quoteLiteral value).toList, c ≠ '\n' ∧ c ≠ '\r') := by
  refine ⟨?_, fun hescape c hc => ?_⟩
  · rw [readLiteral, QuoteRule.readText, String.toList_append,
      d.profile.read_quoteLiteral value fun _ => h, Option.map_some, String.ofList_toList,
      String.ofList_toList]
  · rw [toList_quoteLiteral, hescape, List.mem_append, List.mem_cons, List.mem_singleton,
      List.mem_flatMap] at hc
    obtain (rfl | ⟨a, -, ha⟩) | rfl := hc
    · decide
    · exact LiteralEscape.backslash_escape_ne a c ha
    · decide

theorem readLiteral_quoteLiteral_hostile :
    (", 2)" : String).toList.head? ≠ some '\'' ∧
    Dialect.spark.profile.readLiteral
        (Dialect.spark.profile.quoteLiteral "'it''s\\'\n\\" ++ ", 2)") =
      some ("'it''s\\'\n\\", ", 2)") ∧
    (Dialect.spark.profile.literalEscape = .backslash →
      ∀ c ∈ (Dialect.spark.profile.quoteLiteral "'it''s\\'\n\\").toList,
        c ≠ '\n' ∧ c ≠ '\r') :=
  ⟨by decide, readLiteral_quoteLiteral .spark "'it''s\\'\n\\" (by decide)⟩

end Profile

end CleanSql
