import CleanSql.Document.Sql
import CleanSql.Proofs.RowFilter
import CleanSql.Proofs.Template.Opening

/-!
# Template code in columns

What is selected for a column opens template code exactly if its name does or one of the texts that
are written for it (`Column.inert_columnItems_iff`). The texts that are written are those of the
stages the dialect has a form for, and the values and results that no other text stands in for
(`Column.writtenTexts`).
-/
namespace CleanSql

open Template

namespace Frame

def literals (f : Frame) : List String := f.filterMap fun q =>
  match q with
  | .literal value => some value
  | _ => none

theorem mem_literals_iff {value : String} {f : Frame} :
    value ∈ f.literals ↔ .literal value ∈ f := by
  rw [literals, List.mem_filterMap]
  constructor
  · rintro ⟨q, hq, hliteral⟩
    cases q with
    | literal _ => exact Option.some.inj hliteral ▸ hq
    | text _ | part _ | hole => cases hliteral
  · exact fun h => ⟨.literal value, h, rfl⟩

end Frame

namespace Template

variable {p : Profile}

theorem inert_quoteLiteral_iff (p : Profile) (text : String) :
    Inert (p.quoteLiteral text) ↔ Inert text := by
  rw [Inert, openings_quoteLiteral]
  rfl

theorem inert_fill_iff_literals {f : Frame} {e : String} (hf : isInertFrame f)
    (hb : f.Balanced p) : Inert (f.fill p e) ↔
      (∀ v ∈ f.literals, Inert v) ∧ (∀ sql ∈ f.parts, Inert sql) ∧ (f.hasHole → Inert e) := by
  rw [inert_fill_iff hf hb]
  simp only [Frame.mem_literals_iff, Frame.mem_parts_iff, Frame.hasHole_iff]
  constructor
  · intro h
    refine ⟨fun v hv => ?_, fun sql hsql => ?_, fun hhole => ?_⟩
    · exact (inert_quoteLiteral_iff p v).mp (h (.literal v) hv)
    · exact h (.part sql) hsql
    · exact h .hole hhole
  · rintro ⟨hliterals, hparts, hhole⟩ q hq
    cases q with
    | text sql => exact inert_of_isInertText (List.all_eq_true.mp hf (.text sql) hq)
    | literal value => exact (inert_quoteLiteral_iff p value).mpr (hliterals value hq)
    | part sql => exact hparts sql hq
    | hole => exact hhole hq

theorem inert_toString (n : UInt64) : Inert (toString n) :=
  inert_of_isInertText (isInertText_iff.mpr fun _ hc =>
    isInert_of_kind (by decide) (isDigit_of_mem_toString n hc))

theorem inert_of_isTypeName {text : String} (h : isTypeName text) : isInertText text := by
  have hread : text.toList.foldl TypeNameState.step .start ≠ .failed := by
    intro hf
    rw [isTypeName, hf] at h
    cases h
  refine isInertText_iff.mpr fun c hc => ?_
  obtain ⟨s, hs⟩ := Automaton.exists_step_ne_failed (fun _ => rfl) hread c hc
  exact isInert_of_kind (k := fun c => s.step c ≠ .failed) (by cases s <;> decide) (by simpa)

theorem inert_of_isNumeral {text : String} (h : isNumeral text) : isInertText text := by
  refine isInertText_iff.mpr fun c hc => ?_
  obtain ⟨s, hs⟩ :=
    Automaton.exists_step_ne_failed (fun _ => rfl) (foldl_ne_failed_of_isNumeral h) c hc
  exact isInert_of_kind (k := fun c => s.step c ≠ .failed) (by cases s <;> decide) (by simpa)

theorem inert_of_toLower {text : String} (h : isInertText text.toLower) : isInertText text := by
  refine isInertText_iff.mpr fun c hc => ?_
  have hlower : isInert c.toLower := by
    refine isInertText_iff.mp h _ ?_
    have hmap : text.toLower.toList = text.toList.map Char.toLower := String.toList_map
    rw [hmap]
    exact List.mem_map_of_mem hc
  exact isInert_of_kind (k := fun c => isInert c.toLower) (by decide) hlower

end Template

theorem Transformations.split_mem_stages {t : Transformations} {delimiter : String}
    {index : UInt64} : .split delimiter index ∈ t.stages ↔ t.delimiterSplit.enabled ∧
      delimiter = t.delimiterSplit.delimiter ∧ index = t.delimiterSplit.index := by
  cases h : t.caseNormalization <;> simp [stages, textStages, CaseNormalization.stage?, h]

namespace Stage

/-- The texts of its own that a stage writes as literals. -/
def writtenTexts (p : Profile) : Stage → List String
  | split delimiter _ =>
    match p.split with
    | .unsupported => []
    | .regexArray _ => [escapeRegex delimiter]
    | .part _ | .safeArray _ | .substringIndex => [delimiter]
  | regex pattern replacement => if p.regex = .unsupported then [] else [pattern, replacement]
  | trim | upper | lower | title | strip | cast _ => []

variable (d : Dialect)

/-- No fixed text in the frame of a stage is part of an opening. -/
theorem isInertFrame_frame (s : Stage) : isInertFrame (s.frame d.profile) := by
  cases s with
  | trim | upper | lower | title | strip | regex _ _ => cases d <;> rfl
  | split delimiter index =>
    simp only [frame, Profile.splitFrame]
    split
    · rfl
    · cases d <;> rfl
  | cast request =>
    cases request with
    | verbatim name => cases d <;> rfl
    | engine type => cases d <;> cases type <;> rfl

/-- The literals of a stage are its own texts, and some that are fixed. -/
theorem inert_literals_iff {s : Stage} (hindex : ∀ delimiter index, s = .split delimiter index →
    index.toNat + 1 < UInt64.size) :
    (∀ v ∈ (s.frame d.profile).literals, Inert v) ↔
      ∀ v ∈ s.writtenTexts d.profile, Inert v := by
  cases s with
  | trim | upper | lower => cases d <;> exact Iff.rfl
  | title | strip => cases d <;> exact iff_of_true (by decide) nofun
  | regex pattern replacement => cases d <;> exact Iff.rfl
  | split delimiter index =>
    have hnative : IndexBase.native? .one index = some (index + 1) :=
      if_pos (hindex delimiter index rfl)
    cases d with
    | mysql =>
      -- The delimiter is written twice there.
      simp [frame, Profile.splitFrame, Dialect.profile, Profile.mysql, SplitForm.base?, hnative,
        Frame.literals, writtenTexts]
    | snowflake | postgresql =>
      simp [frame, Profile.splitFrame, Dialect.profile, Profile.snowflake, Profile.postgresql,
        SplitForm.base?, hnative, Frame.literals, writtenTexts]
    | spark | bigquery | tsql | ansi => exact Iff.rfl
  | cast request =>
    cases request with
    | verbatim name => cases d <;> exact Iff.rfl
    | engine type => cases d <;> cases type <;> exact Iff.rfl

end Stage

namespace Template

variable {p : Profile}

/-- The frame opens no code by itself and holds its expression. -/
structure Transparent (p : Profile) (f : Frame) : Prop where
  balanced : f.Balanced p
  inert : isInertFrame f
  parts : ∀ sql ∈ f.parts, Inert sql
  hasHole : f.hasHole

theorem Transparent.inert_fill_iff {f : Frame} (h : Transparent p f) {e : String} :
    Inert (f.fill p e) ↔ Inert e ∧ ∀ v ∈ f.literals, Inert v := by
  rw [inert_fill_iff_literals h.inert h.balanced]
  have hparts := h.parts
  have hhole := h.hasHole
  tauto

theorem inert_around_iff {fs : List Frame} (h : ∀ f ∈ fs, Transparent p f) {e : String} :
    Inert (Frame.around p e fs) ↔ Inert e ∧ ∀ f ∈ fs, ∀ v ∈ f.literals, Inert v := by
  induction fs generalizing e with
  | nil => simp
  | cons f fs ih =>
    rw [List.forall_mem_cons] at h
    rw [Frame.around_cons, ih h.2, h.1.inert_fill_iff, List.forall_mem_cons, and_assoc]

end Template

section Literals

open Profile

variable (d : Dialect)

theorem inert_castTarget {type : DataType} {name : String}
    (h : d.profile.castTarget type = .type name) : Inert name := by
  cases d <;> cases type <;> cases h <;> decide

theorem transparent_castFrame (type : DataType) :
    Transparent d.profile (d.profile.castFrame (.engine type)) where
  balanced := Stage.balanced_frame d (.cast (.engine type))
  inert := Stage.isInertFrame_frame d (.cast (.engine type))
  parts sql h := by
    obtain ⟨n, rfl⟩ | ⟨t, ht⟩ | ⟨name, hname, -⟩ := Stage.mem_parts (s := .cast (.engine type)) h
    · exact inert_toString n
    · exact inert_castTarget d ht
    · cases hname
  hasHole := Stage.hasHole_frame d (.cast (.engine type))

theorem inert_writeCast_engine (type : DataType) (e : String) :
    Inert ((d.profile.writeCast (.engine type) e).orKeep e) ↔ Inert e := by
  rw [← fill_castFrame, (transparent_castFrame d type).inert_fill_iff]
  have hliterals := Stage.inert_literals_iff d (s := .cast (.engine type)) nofun
  exact and_iff_left (hliterals.mpr nofun)

/-- A replacement opens code exactly if its text does. -/
theorem inert_writeTypedLiteral_iff (type : DataType) (value : String) :
    Inert ((d.profile.writeTypedLiteral type value).orKeep (d.profile.quoteLiteral value)) ↔
      Inert value := by
  have hq := inert_quoteLiteral_iff d.profile value
  -- A value that is written bare is its trimmed text, which has no opening.
  have hbare {sql : String} (hsql : Inert sql) (htrim : isInertText (Text.trim value)) :
      Inert sql ↔ Inert value := by
    refine iff_of_true hsql ?_
    rw [Inert, ← openings_trim]
    exact inert_of_isInertText htrim
  unfold writeTypedLiteral
  dsimp only
  split_ifs with hnum hnumeral htemp hbool
  · have hinert := inert_of_isNumeral hnumeral
    exact hbare (inert_of_isInertText hinert) hinert
  · exact hq
  · have hcast := (inert_writeCast_engine d type (d.profile.quoteLiteral value)).trans hq
    revert hcast
    cases h : d.profile.writeCast (.engine type) (d.profile.quoteLiteral value) with
    | exact sql => exact id
    | approximate sql caveat => exact fun _ => hq
    | unsupported caveat => exact fun _ => hq
  · have hboolean (b : Bool) : Inert (d.profile.writeBoolean b) := by
      cases d <;> cases b <;> decide
    split
    · next htrue => exact hbare (hboolean true) (inert_of_toLower (by rw [htrue]; decide))
    · next hfalse => exact hbare (hboolean false) (inert_of_toLower (by rw [hfalse]; decide))
    · exact hq
  · exact hq

theorem openings_writeCoalesce (p : Profile) (e fallback : String) :
    openings (p.writeCoalesce e fallback) = openings e + openings fallback := by
  rw [writeCoalesce, openings_append_of_right (by decide),
    openings_between (by decide) (by decide), openings_append_of_left (by decide)]

theorem openings_writeCase (p : Profile) (c : ConditionalCase) :
    openings (p.writeCase c) = openings c.condition + openings c.result := by
  rw [writeCase, openings_between (by decide) (by decide), openings_append_of_left (by decide),
    openings_trim, openings_quoteLiteral]

theorem openings_writeCases (p : Profile) (cases : List ConditionalCase) (otherwise : String) :
    openings (p.writeCases cases otherwise) =
      (cases.map fun c => openings c.condition + openings c.result).sum + openings otherwise := by
  have hjoin : openings (String.join (cases.map p.writeCase)) =
      (cases.map fun c => openings c.condition + openings c.result).sum := by
    induction cases with
    | nil => rfl
    | cons c cases ih =>
      -- A case ends with the quote of its result.
      have hlast : ∀ x ∈ (p.writeCase c).toList.getLast?, isInert x := by
        simp only [writeCase, String.toList_append, toList_quoteLiteral]
        rw [List.getLast?_append_of_ne_nil _ (by simp), List.getLast?_concat]
        rintro x ⟨⟩
        decide
      rw [List.map_cons, String.join_cons, openings_append hlast, ih, openings_writeCase]
      rfl
  rw [writeCases, openings_append_of_right (by decide), openings_between (by decide) (by decide),
    openings_append_of_left (by decide), hjoin]

theorem inert_writeNullFlag_iff (p : Profile) (e : String) :
    Inert (p.writeNullFlag e) ↔ Inert e := by
  unfold Inert writeNullFlag
  split <;> rw [openings_append_of_right (by decide), openings_append_of_left (by decide)]

end Literals

namespace Column

/-- No SQL that is written as it stands opens code, and there is no custom expression. -/
structure Literal (c : Column) : Prop where
  custom : Text.trim c.transformations.customExpression = ""
  conditions : c.transformations.conditional.enabled →
    ∀ one ∈ c.transformations.conditional.cases, Inert one.condition
  filter : c.transformations.whereFilter.enabled → Inert c.transformations.whereFilter.condition

/-- Cases with a text for all other rows leave the value itself out. -/
def showsValue (c : Column) : Bool :=
  !c.transformations.conditional.enabled || c.transformations.conditional.otherwise = ""

/-- The name of a column and the texts that are written for it as literals. -/
def writtenTexts (d : Dialect) (c : Column) : List String :=
  c.name ::
    if ∃ m, c.transformations.Violates m then []
    else
      (if c.showsValue || c.transformations.nullStrategy = .flag then
        c.transformations.stages.flatMap (Stage.writtenTexts d.profile) else []) ++
      (if c.showsValue && c.transformations.nullStrategy = .replace then
        [c.transformations.nullReplacement] else []) ++
      (if c.transformations.conditional.enabled then
        c.transformations.conditional.cases.map (·.result) ++
          [c.transformations.conditional.otherwise] else [])

variable {d : Dialect} {c : Column}

theorem transparent_stageFrames (d : Dialect) (c : Column) :
    ∀ f ∈ c.stageFrames d.profile, Transparent d.profile f := by
  intro f hf
  obtain ⟨s, hs, rfl⟩ := List.mem_map.mp hf
  refine ⟨s.balanced_frame d, s.isInertFrame_frame d, fun sql h => ?_, s.hasHole_frame d⟩
  obtain ⟨n, rfl⟩ | ⟨type, htype⟩ | hplain := c.mem_stageParts d hf h
  · exact inert_toString n
  · exact inert_castTarget d htype
  · exact inert_of_isInertText (inert_of_isTypeName hplain)

/-- A column in order splits at an index that can be counted from one. -/
theorem splitIndex_lt (h : c.transformations.malformations = []) {s : Stage}
    (hs : s ∈ c.transformations.stages) (delimiter : String) (index : UInt64)
    (hsplit : s = .split delimiter index) : index.toNat + 1 < UInt64.size := by
  obtain ⟨henabled, -, hindex⟩ := Transformations.split_mem_stages.mp (hsplit ▸ hs)
  by_contra hlarge
  have hrange : Malformation.indexOutOfRange c.transformations.delimiterSplit.index ∈
      c.transformations.malformations := by
    refine Transformations.mem_malformations.mpr (.indexOutOfRange henabled ?_)
    have hlt : index.toNat < UInt64.size := index.toNat_lt_size
    rw [← hindex]
    omega
  rw [h] at hrange
  cases hrange

theorem inert_staged_iff (h : c.transformations.malformations = []) (hc : c.Literal) :
    Inert (c.staged d.profile).expression ↔ Inert c.name ∧
      ∀ v ∈ c.transformations.stages.flatMap (Stage.writtenTexts d.profile), Inert v := by
  have hstart : Inert (c.startExpression d.profile) ↔ Inert c.name := by
    rw [startExpression, Transformations.customExpression?, if_pos hc.custom, Option.getD_none,
      reference, Inert, openings_quoteIdentifier]
    rfl
  have hliterals : (∀ f ∈ c.stageFrames d.profile, ∀ v ∈ f.literals, Inert v) ↔
      ∀ s ∈ c.transformations.stages, ∀ v ∈ s.writtenTexts d.profile, Inert v := by
    rw [stageFrames, List.forall_mem_map]
    exact forall₂_congr fun s hs => Stage.inert_literals_iff d (splitIndex_lt h hs)
  rw [staged_expression, inert_around_iff (c.transparent_stageFrames d), hstart, hliterals,
    List.forall_mem_flatMap]

theorem inert_filled_iff (c : Column) :
    Inert (c.filled d.profile).expression ↔ Inert (c.staged d.profile).expression ∧
      (c.transformations.nullStrategy = .replace → Inert c.transformations.nullReplacement) := by
  have hreplacement : Inert ((c.replacement d.profile).orKeep
      (d.profile.quoteLiteral c.transformations.nullReplacement)) ↔
        Inert c.transformations.nullReplacement := inert_writeTypedLiteral_iff d _ _
  unfold filled
  dsimp only
  split_ifs with hreplace
  · rw [Inert, openings_writeCoalesce, Nat.add_eq_zero_iff]
    exact and_congr_right fun _ => hreplacement.trans (imp_iff_right hreplace).symm
  · exact (and_iff_left fun h => absurd h hreplace).symm

theorem inert_value_iff (hc : c.Literal) :
    Inert (c.value d.profile) ↔ (c.showsValue → Inert (c.filled d.profile).expression) ∧
      (c.transformations.conditional.enabled →
        (∀ one ∈ c.transformations.conditional.cases, Inert one.result) ∧
          Inert c.transformations.conditional.otherwise) := by
  have hempty : Inert "" := rfl
  unfold value showsValue
  dsimp only
  by_cases henabled : c.transformations.conditional.enabled
  · have hconditions := hc.conditions henabled
    have hcases : (c.transformations.conditional.cases.map fun one =>
        openings one.condition + openings one.result).sum = 0 ↔
          ∀ one ∈ c.transformations.conditional.cases, Inert one.result := by
      rw [List.sum_eq_zero_iff_forall_eq_nat, List.forall_mem_map]
      refine forall₂_congr fun one hone => ?_
      rw [hconditions one hone, Nat.zero_add]
      rfl
    rw [if_pos henabled, Inert, openings_writeCases, Nat.add_eq_zero_iff, hcases]
    by_cases hotherwise : c.transformations.conditional.otherwise = ""
    · simp only [hotherwise, if_true, henabled, hempty]
      simp only [Inert, decide_true, Bool.not_true, Bool.false_or]
      tauto
    · simp [hotherwise, henabled, Inert]
  · simp [henabled]

theorem inert_selectItem_iff (d : Dialect) (e name : String) :
    Inert (Statement.selectItem d e name) ↔ Inert e ∧ Inert name := by
  rw [Inert, Statement.selectItem, openings_between (by decide) (by decide),
    openings_quoteIdentifier, Nat.add_eq_zero_iff]
  rfl

theorem inert_flagName_iff (name : String) : Inert (flagName name) ↔ Inert name := by
  rw [Inert, flagName, openings_append_of_right (by decide)]
  rfl

theorem inert_rowPredicates (hc : c.Literal) (hname : Inert c.name) :
    ∀ sql ∈ c.rowPredicates d, Inert sql := by
  have hdrop : Inert (d.profile.quoteIdentifier c.name ++ " IS NOT NULL") := by
    rwa [Inert, openings_append_of_right (by decide), openings_quoteIdentifier]
  have hfilter (henabled : c.transformations.whereFilter.enabled) :
      Inert (Text.trim c.transformations.whereFilter.condition) := by
    rw [Inert, openings_trim]
    exact hc.filter henabled
  rw [rowPredicates, if_pos hc.custom]
  split_ifs <;> simp_all

/-- What is selected for a column opens code exactly if its name or one of its texts does that is
written. -/
theorem inert_columnItems_iff (hc : c.Literal) :
    (∀ item ∈ Statement.columnItems d (c.compile d), Inert item) ↔
      ∀ text ∈ c.writtenTexts d, Inert text := by
  rw [Statement.columnItems, List.forall_mem_cons, inert_selectItem_iff, name_compile]
  by_cases h : c.transformations.malformations = []
  · have hsound := Transformations.not_violates_iff.mpr h
    have hflag : (∀ item ∈ ((c.compile d).flag.map fun flag =>
          Statement.selectItem d flag.expression flag.name).toList, Inert item) ↔
        (c.transformations.nullStrategy = .flag →
          Inert (c.staged d.profile).expression ∧ Inert c.name) := by
      rw [compile_of_sound d h, flag?]
      by_cases hstrategy : c.transformations.nullStrategy = .flag
      · simp [hstrategy, inert_selectItem_iff, inert_flagName_iff, inert_writeNullFlag_iff]
      · simp [hstrategy]
    have hvalue : (c.compile d).expression = c.value d.profile := by rw [compile_of_sound d h]
    rw [hflag, hvalue, inert_value_iff hc, inert_filled_iff, inert_staged_iff h hc, writtenTexts,
      if_neg hsound, List.forall_mem_cons]
    have hif (q : Prop) [Decidable q] (l : List String) :
        (∀ text ∈ (if q then l else []), Inert text) ↔ (q → ∀ text ∈ l, Inert text) := by
      split_ifs with hq <;> simp [hq]
    simp only [List.forall_mem_append, hif, Bool.or_eq_true, Bool.and_eq_true, decide_eq_true_eq,
      List.forall_mem_map, List.forall_mem_singleton]
    -- Where the value is left out, its texts are written for a flag if at all.
    by_cases hname : Inert c.name
    · simp only [hname, true_and, and_true]
      grind
    · simp only [hname, false_and, and_false]
  · have hmalformed := Transformations.exists_violates_iff.mpr h
    rw [compile_of_malformed d h, writtenTexts, if_pos hmalformed]
    simp [degraded, reference, Inert]

end Column

end CleanSql
