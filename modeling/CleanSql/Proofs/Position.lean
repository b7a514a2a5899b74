import Mathlib.Data.List.TakeWhile
import CleanSql.Error
import CleanSql.Proofs.Occurrence

/-!
# The place that a message names

A message is asked for the first word "line", then for the first word "column" behind its number
(`Position.of?_eq_some_iff`). The first pair of a line and a column is the answer if no other
"line" stands before it. If one does, as in "deadline", the text before the pair decides: the pair
is the answer only if this text has its numbers already (`Position.of?_firstPair`).
-/
namespace CleanSql.Position

/-- The characters of a message that is read in letters of either case. -/
def lowered (s : String) : List Char := s.toLower.toList

/-- The digits of a number of one word of memory. -/
structure IsNumber (n : Nat) (cs : List Char) : Prop where
  digits : ∀ c ∈ cs, c.isDigit
  value : Number.natOfDigits? 10 cs = some n
  small : n < UInt64.size

/-- A word and a number, with nothing but separators between them. -/
def IsLabelled (word : String) (n : Nat) (cs : List Char) : Prop :=
  ∃ gap number, (∀ c ∈ gap, isSeparator c) ∧ IsNumber n number ∧ cs = word.toList ++ gap ++ number

def EndsNumber (cs : List Char) : Prop := ∀ c ∈ cs.head?, ¬ c.isDigit

/-- A text whose first occurrence of a word has a number, and what is behind it. -/
def FirstNumber (word : String) (n : Nat) (cs rest : List Char) : Prop :=
  ∃ before label, cs = before ++ label ++ rest ∧ IsLabelled word n label ∧
    ¬ word.toList <:+: before ∧ EndsNumber rest

/-- The first "line" of a text has the line of a place, and the first "column" behind it, if there
is one, its column. -/
def Foretells (pos : Position) (cs : List Char) : Prop :=
  ∃ rest, FirstNumber "line" pos.line cs rest ∧
    ("column".toList <:+: rest → ∃ after, FirstNumber "column" pos.column rest after)

def NumbersLine (message : String) : Prop :=
  ∃ before line after n, lowered message = before ++ line ++ after ∧ IsLabelled "line" n line ∧
    EndsNumber after

/-- A line and a column, with nothing but separators between them, stand behind a text. -/
def PairBehind (before message : String) (pos : Position) : Prop :=
  ∃ line gap column after, lowered message = lowered before ++ line ++ gap ++ column ++ after ∧
    IsLabelled "line" pos.line line ∧ (∀ c ∈ gap, isSeparator c) ∧
    IsLabelled "column" pos.column column ∧ EndsNumber after

section Numbers

variable {cs rest : List Char} {n : Nat}

theorem not_isDigit_of_isSeparator {c : Char} (h : isSeparator c) : ¬ c.isDigit := by
  intro hdigit
  have hrange : 48 ≤ c.toNat ∧ c.toNat ≤ 57 := by
    simpa [Char.isDigit, UInt32.le_iff_toNat_le] using hdigit
  simp only [isSeparator, Text.isBlank, Bool.or_eq_true, Bool.and_eq_true, decide_eq_true_eq,
    beq_iff_eq] at h
  obtain (rfl | rfl) | h := h
  · simp at hrange
  · simp at hrange
  · omega

theorem IsNumber.exists_cons (h : IsNumber n cs) : ∃ c t, cs = c :: t ∧ c.isDigit := by
  cases cs with
  | nil => exact absurd h.value (by simp [Number.natOfDigits?])
  | cons c t => exact ⟨c, t, rfl, h.digits c (by simp)⟩

theorem number?_eq_some_iff : number? cs = some (n, rest) ↔
    ∃ number, cs = number ++ rest ∧ IsNumber n number ∧ EndsNumber rest := by
  constructor
  · intro h
    obtain ⟨m, hm, hsome⟩ := Option.bind_eq_some_iff.mp h
    split_ifs at hsome with hsmall
    cases hsome
    refine ⟨cs.takeWhile Char.isDigit, List.takeWhile_append_dropWhile.symm,
      ⟨fun c hc => List.mem_takeWhile_imp hc, hm, hsmall⟩, fun c hc => ?_⟩
    have hhead := List.head?_dropWhile_not Char.isDigit cs
    rw [Option.mem_def.mp hc] at hhead
    simpa using hhead
  · rintro ⟨number, rfl, hnumber, hends⟩
    have hstop : rest.takeWhile Char.isDigit = [] ∧ rest.dropWhile Char.isDigit = rest := by
      cases rest with
      | nil => simp
      | cons c t =>
        have hc : c.isDigit = false := by simpa using hends c (by simp)
        simp [hc]
    have htake : (number ++ rest).takeWhile Char.isDigit = number := by
      rw [List.takeWhile_append_of_pos hnumber.digits, hstop.1, List.append_nil]
    have hdrop : (number ++ rest).dropWhile Char.isDigit = rest := by
      rw [List.dropWhile_append_of_pos hnumber.digits, hstop.2]
    rw [number?, htake, hdrop, hnumber.value, Option.bind_some, if_pos hnumber.small]

end Numbers

section Search

variable {w : Char} {cs rest : List Char} {n : Nat}

theorem numberAfter?_eq_some_iff {word : String} {letters : List Char}
    (hword : word.toList = w :: letters) (hw : w ∉ letters) :
    numberAfter? word cs = some (n, rest) ↔ FirstNumber word n cs rest := by
  rw [numberAfter?, Option.bind_eq_some_iff]
  constructor
  · rintro ⟨behind, hbehind, hnumber⟩
    rw [hword] at hbehind
    obtain ⟨before, rfl, hfirst⟩ := (Text.after?_eq_some_iff hw).mp hbehind
    obtain ⟨number, hdrop, hnumber, hends⟩ := number?_eq_some_iff.mp hnumber
    refine ⟨before, w :: letters ++ behind.takeWhile isSeparator ++ number, ?_,
      ⟨behind.takeWhile isSeparator, number, fun c hc => List.mem_takeWhile_imp hc, hnumber,
        by rw [hword]⟩, by rwa [hword], hends⟩
    have hbehind : behind = behind.takeWhile isSeparator ++ (number ++ rest) := by
      rw [← hdrop, List.takeWhile_append_dropWhile]
    conv_lhs => rw [hbehind]
    simp
  · rintro ⟨before, label, rfl, ⟨gap, number, hgap, hnumber, rfl⟩, hfirst, hends⟩
    rw [hword] at hfirst ⊢
    refine ⟨gap ++ number ++ rest, (Text.after?_eq_some_iff hw).mpr ⟨before, by simp, hfirst⟩, ?_⟩
    obtain ⟨c, t, rfl, hc⟩ := hnumber.exists_cons
    have hstop : ¬ isSeparator c := fun hsep => not_isDigit_of_isSeparator hsep hc
    have hdrop : (gap ++ c :: t ++ rest).dropWhile isSeparator = c :: t ++ rest := by
      rw [List.append_assoc, List.dropWhile_append_of_pos hgap, List.cons_append,
        List.dropWhile_cons_of_neg hstop]
    rw [hdrop]
    exact number?_eq_some_iff.mpr ⟨c :: t, rfl, hnumber, hends⟩

theorem numberAfter?_line :
    numberAfter? "line" cs = some (n, rest) ↔ FirstNumber "line" n cs rest :=
  numberAfter?_eq_some_iff (w := 'l') (by decide : _ = ['l', 'i', 'n', 'e']) (by decide)

theorem numberAfter?_column :
    numberAfter? "column" cs = some (n, rest) ↔ FirstNumber "column" n cs rest :=
  numberAfter?_eq_some_iff (w := 'c') (by decide : _ = ['c', 'o', 'l', 'u', 'm', 'n']) (by decide)

/-- A place is read off the first "line" of a message and the first "column" behind its number, if
each has a number. -/
theorem of?_eq_some_iff {message : String} {pos : Position} : of? message = some pos ↔
    ∃ rest after, FirstNumber "line" pos.line (lowered message) rest ∧
      FirstNumber "column" pos.column rest after := by
  have hof : of? message = (numberAfter? "line" (lowered message)).bind fun r =>
      (numberAfter? "column" r.2).bind fun s => some ⟨r.1, s.1⟩ := rfl
  rw [hof]
  constructor
  · intro h
    obtain ⟨⟨n, rest⟩, hline, h⟩ := Option.bind_eq_some_iff.mp h
    obtain ⟨⟨m, after⟩, hcolumn, h⟩ := Option.bind_eq_some_iff.mp h
    cases h
    exact ⟨rest, after, numberAfter?_line.mp hline, numberAfter?_column.mp hcolumn⟩
  · rintro ⟨rest, after, hline, hcolumn⟩
    rw [numberAfter?_line.mpr hline, Option.bind_some, numberAfter?_column.mpr hcolumn,
      Option.bind_some]

/-- Without a numbered "line" no place is named. -/
theorem of?_eq_none {message : String} (h : ¬ NumbersLine message) : of? message = none := by
  by_contra hsome
  obtain ⟨pos, hpos⟩ := Option.ne_none_iff_exists'.mp hsome
  obtain ⟨rest, -, ⟨before, line, hmessage, hlabel, -, hends⟩, -⟩ := of?_eq_some_iff.mp hpos
  exact h ⟨before, line, rest, pos.line, hmessage, hlabel, hends⟩

end Search

section Pairs

variable {before message : String} {pos : Position}

theorem length_lowered (s : String) : (lowered s).length = s.length := by
  have hmap : lowered s = s.toList.map Char.toLower := String.toList_map
  rw [hmap, List.length_map, String.length_toList]

theorem endsNumber_gap {gap column after : List Char} {n : Nat} (hgap : ∀ c ∈ gap, isSeparator c)
    (hcolumn : IsLabelled "column" n column) : EndsNumber (gap ++ column ++ after) := by
  obtain ⟨gap', number, -, -, rfl⟩ := hcolumn
  intro c hc
  cases gap with
  | nil =>
    have hletter : c = 'c' := by simpa [eq_comm] using hc
    simp [hletter]
  | cons g gap =>
    have hg : c = g := by simpa [eq_comm] using hc
    exact hg ▸ not_isDigit_of_isSeparator (hgap g (by simp))

/-- A pair with no other "line" before it is the answer. -/
theorem of?_of_pairBehind (h : PairBehind before message pos)
    (hfirst : ¬ "line".toList <:+: lowered before) : of? message = some pos := by
  obtain ⟨line, gap, column, after, hmessage, hline, hgap, hcolumn, hends⟩ := h
  have hno : ¬ "column".toList <:+: gap := by
    intro hoccurs
    have hletter : 'c' ∈ gap := hoccurs.subset (by decide)
    exact absurd (hgap 'c' hletter) (by decide)
  exact of?_eq_some_iff.mpr ⟨gap ++ column ++ after, after,
    ⟨lowered before, line, by simp [hmessage], hline, hfirst, endsNumber_gap hgap hcolumn⟩,
    ⟨gap, column, rfl, hcolumn, hno, hends⟩⟩

theorem length_le_of_pairBehind (h : PairBehind before message pos)
    (hfirst : ¬ "line".toList <:+: lowered before) {earlier : String} {pos' : Position}
    (h' : PairBehind earlier message pos') : before.length ≤ earlier.length := by
  obtain ⟨_, gap, column, after, hmessage, ⟨gap₁, number, -, -, rfl⟩, -⟩ := h
  obtain ⟨_, gap', column', after', hmessage', ⟨gap₂, number', -, -, rfl⟩, -⟩ := h'
  have hword : "line".toList = 'l' :: ['i', 'n', 'e'] := by decide
  rw [hword] at hfirst hmessage hmessage'
  rw [← length_lowered, ← length_lowered]
  have hboth : lowered earlier ++ 'l' :: ['i', 'n', 'e'] ++
        (gap₂ ++ number' ++ gap' ++ column' ++ after') =
      lowered before ++ 'l' :: ['i', 'n', 'e'] ++ (gap₁ ++ number ++ gap ++ column ++ after) := by
    rw [hmessage] at hmessage'
    simpa using hmessage'.symm
  exact Text.length_le_of_not_isInfix (by decide) hboth hfirst

section Decoys

variable {cs more : List Char}

theorem takeWhile_append_of_stop (cs : List Char) {k : Char → Bool}
    (h : ∀ c ∈ more.head?, ¬ k c) :
    (cs ++ more).takeWhile k = cs.takeWhile k ∧
      (cs ++ more).dropWhile k = cs.dropWhile k ++ more := by
  induction cs with
  | nil =>
    cases more with
    | nil => simp
    | cons c more =>
      have hc : k c = false := by simpa using h c (by simp)
      simp [hc]
  | cons c cs ih =>
    by_cases hc : k c <;> simp [hc, ih]

/-- A number behind the first occurrence of a word is not changed by what is added, if this begins
with a letter. -/
theorem numberAfter?_append {word : String} (hword : word.toList <:+: cs)
    (hmore : ∀ c ∈ more.head?, ¬ isSeparator c ∧ ¬ c.isDigit) :
    numberAfter? word (cs ++ more) =
      (numberAfter? word cs).map fun r => (r.1, r.2 ++ more) := by
  have hne : Text.after? word.toList cs ≠ none := by
    rwa [ne_eq, Text.after?_eq_none_iff, not_not]
  obtain ⟨rest, hrest⟩ := Option.ne_none_iff_exists'.mp hne
  have hsep := takeWhile_append_of_stop rest fun c hc => (hmore c hc).1
  have hdigit := takeWhile_append_of_stop (rest.dropWhile isSeparator) fun c hc => (hmore c hc).2
  rw [numberAfter?, numberAfter?, hrest, Text.after?_append hrest, Option.bind_some,
    Option.bind_some, hsep.2, number?, number?, hdigit.1, hdigit.2]
  cases Number.natOfDigits? 10 ((rest.dropWhile isSeparator).takeWhile Char.isDigit) with
  | none => rfl
  | some n =>
    by_cases hsmall : n < UInt64.size
    · simp only [Option.bind_some, if_pos hsmall, Option.map_some]
    · simp only [Option.bind_some, if_neg hsmall, Option.map_none]

theorem not_isInfix_column {rest line gap : List Char} {n : Nat}
    (h : ¬ "column".toList <:+: rest) (hline : IsLabelled "line" n line)
    (hgap : ∀ c ∈ gap, isSeparator c) : ¬ "column".toList <:+: rest ++ (line ++ gap) := by
  obtain ⟨gap', number, hgap', hnumber, rfl⟩ := hline
  have hword : "column".toList = ['c', 'o', 'l', 'u'] ++ ['m', 'n'] := by decide
  have hlabel : 'm' ∉ "line".toList := by decide
  have hgaps {g : List Char} (hg : ∀ c ∈ g, isSeparator c) : 'm' ∉ g :=
    fun hm => absurd (hg 'm' hm) (by decide)
  have hdigits : 'm' ∉ number := fun hm => absurd (hnumber.digits 'm' hm) (by decide)
  rw [hword] at h ⊢
  refine Text.not_isInfix_append h ?_ (by simp)
  simp only [List.mem_append, not_or]
  exact ⟨⟨⟨hlabel, hgaps hgap'⟩, hdigits⟩, hgaps hgap⟩

/-- Behind another "line", a pair is the answer exactly if the text before it has its numbers. -/
theorem of?_iff_foretells (h : PairBehind before message pos)
    (hline : "line".toList <:+: lowered before) :
    of? message = some pos ↔ pos.Foretells (lowered before) := by
  obtain ⟨label, gap, column, after, hmessage, hlabel, hgap, hcolumn, hends⟩ := h
  have hsplit : lowered message = lowered before ++ (label ++ gap ++ column ++ after) := by
    rw [hmessage]
    simp
  have hletter : ∀ c ∈ (label ++ gap ++ column ++ after).head?,
      ¬ isSeparator c ∧ ¬ c.isDigit := by
    obtain ⟨gap', number, -, -, rfl⟩ := hlabel
    intro c hc
    have hl : c = 'l' := by simpa [eq_comm] using hc
    rw [hl]
    decide
  have hadded := numberAfter?_append hline hletter
  rw [← hsplit] at hadded
  constructor
  · intro hanswer
    obtain ⟨rest, after', hfirst, hsecond⟩ := of?_eq_some_iff.mp hanswer
    rw [numberAfter?_line.mpr hfirst, eq_comm, Option.map_eq_some_iff] at hadded
    obtain ⟨⟨n, rest'⟩, hbefore, hsame⟩ := hadded
    cases hsame
    refine ⟨rest', numberAfter?_line.mp hbefore, fun hoccurs => ?_⟩
    have hbehind := numberAfter?_append hoccurs hletter
    rw [numberAfter?_column.mpr hsecond, eq_comm, Option.map_eq_some_iff] at hbehind
    obtain ⟨⟨m, after''⟩, hbehind, hsame⟩ := hbehind
    cases hsame
    exact ⟨after'', numberAfter?_column.mp hbehind⟩
  · rintro ⟨rest, hfirst, hsecond⟩
    rw [numberAfter?_line.mpr hfirst, Option.map_some] at hadded
    by_cases hoccurs : "column".toList <:+: rest
    · obtain ⟨after', hsecond⟩ := hsecond hoccurs
      have hbehind := numberAfter?_append hoccurs hletter
      rw [numberAfter?_column.mpr hsecond, Option.map_some] at hbehind
      exact of?_eq_some_iff.mpr
        ⟨_, _, numberAfter?_line.mp hadded, numberAfter?_column.mp hbehind⟩
    · exact of?_eq_some_iff.mpr ⟨_, after, numberAfter?_line.mp hadded, rest ++ (label ++ gap),
        column, by simp, hcolumn, not_isInfix_column hoccurs hlabel hgap, hends⟩

end Decoys

theorem isNumber_singleton {digit : Char} {n : Nat} (hdigit : digit.isDigit)
    (hvalue : Number.natOfDigits? 10 [digit] = some n) (hsmall : n < UInt64.size) :
    IsNumber n [digit] :=
  ⟨List.forall_mem_singleton.mpr hdigit, hvalue, hsmall⟩

theorem isSeparator_blank : ∀ c ∈ [' '], isSeparator c :=
  List.forall_mem_singleton.mpr (by decide)

end Pairs

/-- A message in which no "line" is followed by a number names no place. A pair of a line and a
column is what the message names exactly if there is no other "line" before it, as a word or as a
part of another, or the first of these has the numbers of the pair already. If there is no other
"line" before the pair, it is the first of the message. -/
theorem of?_firstPair (message : String) :
    (¬ NumbersLine message → of? message = none) ∧
    ∀ before pos, PairBehind before message pos →
      (of? message = some pos ↔
        ¬ "line".toList <:+: lowered before ∨ pos.Foretells (lowered before)) ∧
      (¬ "line".toList <:+: lowered before →
        ∀ earlier pos', PairBehind earlier message pos' → before.length ≤ earlier.length) := by
  refine ⟨of?_eq_none, fun before pos h => ⟨?_, fun hfirst earlier pos' h' =>
    length_le_of_pairBehind h hfirst h'⟩⟩
  by_cases hline : "line".toList <:+: lowered before
  · rw [of?_iff_foretells h hline, or_iff_right (not_not_intro hline)]
  · exact iff_of_true (of?_of_pairBehind h hline) (.inl hline)

theorem of?_firstPair_toml :
    PairBehind "TOML parse error at " "TOML parse error at Line: 3, column 5" ⟨3, 5⟩ ∧
      ¬ "line".toList <:+: lowered "TOML parse error at " ∧
      of? "TOML parse error at Line: 3, column 5" = some ⟨3, 5⟩ := by
  have hline : IsNumber 3 ['3'] := isNumber_singleton (by decide) (by decide) (by decide)
  have hcolumn : IsNumber 5 ['5'] := isNumber_singleton (by decide) (by decide) (by decide)
  have hcolon : ∀ c ∈ [':', ' '], isSeparator c := by simp [isSeparator, Text.isBlank]
  have hcomma : ∀ c ∈ [',', ' '], isSeparator c := by simp [isSeparator, Text.isBlank]
  have hpair : PairBehind "TOML parse error at " "TOML parse error at Line: 3, column 5" ⟨3, 5⟩ :=
    ⟨"line: 3".toList, [',', ' '], "column 5".toList, [], by decide +kernel,
      ⟨[':', ' '], ['3'], hcolon, hline, by decide⟩, hcomma,
      ⟨[' '], ['5'], isSeparator_blank, hcolumn, by decide⟩, nofun⟩
  have hfirst : ¬ "line".toList <:+: lowered "TOML parse error at " := by decide +kernel
  exact ⟨hpair, hfirst, ((of?_firstPair _).2 _ _ hpair).1.mpr (.inl hfirst)⟩

/-- Where a pair begins there is the word "line" with a number behind it. -/
theorem PairBehind.number?_drop {before message : String} {pos : Position}
    (h : PairBehind before message pos) :
    "line".toList <+: (lowered message).drop before.length ∧
      (number? (((lowered message).drop (before.length + 4)).dropWhile isSeparator)).isSome := by
  obtain ⟨_, gap, column, after, hmessage, ⟨gap', number, hgap', hnumber, rfl⟩, hgap, hcolumn, -⟩ :=
    h
  have hdrop : (lowered message).drop before.length =
      "line".toList ++ (gap' ++ (number ++ (gap ++ column ++ after))) := by
    rw [hmessage, ← length_lowered]
    simp
  obtain ⟨c, t, rfl, hc⟩ := hnumber.exists_cons
  have hstop : ¬ isSeparator c := fun hsep => not_isDigit_of_isSeparator hsep hc
  have hfour : ("line".toList ++ (gap' ++ (c :: t ++ (gap ++ column ++ after)))).drop 4 =
      gap' ++ (c :: t ++ (gap ++ column ++ after)) := List.drop_left' (by decide)
  have hbehind : ((lowered message).drop (before.length + 4)).dropWhile isSeparator =
      c :: t ++ (gap ++ column ++ after) := by
    rw [← List.drop_drop, hdrop, hfour, List.dropWhile_append_of_pos hgap', List.cons_append,
      List.dropWhile_cons_of_neg hstop]
  refine ⟨⟨_, hdrop.symm⟩, ?_⟩
  rw [hbehind, number?_eq_some_iff.mpr ⟨c :: t, rfl, hnumber, endsNumber_gap hgap hcolumn⟩]
  rfl

/-- The name of a field hides the place. -/
theorem not_forall_of?_firstPair :
    ¬ ∀ (before message : String) (pos : Position), PairBehind before message pos →
      (∀ earlier pos', PairBehind earlier message pos' → before.length ≤ earlier.length) →
        of? message = some pos := by
  intro hall
  have hline : IsNumber 3 ['3'] := isNumber_singleton (by decide) (by decide) (by decide)
  have hcolumn : IsNumber 7 ['7'] := isNumber_singleton (by decide) (by decide) (by decide)
  have hpair : PairBehind "missing deadline at " "missing deadline at line 3 column 7" ⟨3, 7⟩ :=
    ⟨"line 3".toList, [' '], "column 7".toList, [], by decide +kernel,
      ⟨[' '], ['3'], isSeparator_blank, hline, by decide⟩, isSeparator_blank,
      ⟨[' '], ['7'], isSeparator_blank, hcolumn, by decide⟩, nofun⟩
  have hnone : ∀ n < "missing deadline at ".length,
      ¬ ("line".toList <+: (lowered "missing deadline at line 3 column 7").drop n ∧
        (number? (((lowered "missing deadline at line 3 column 7").drop (n + 4)).dropWhile
          isSeparator)).isSome) := by decide +kernel
  have hanswer := hall _ _ _ hpair fun earlier pos' h =>
    Nat.le_of_not_lt fun hlt => hnone _ hlt h.number?_drop
  revert hanswer
  decide +kernel

end CleanSql.Position
