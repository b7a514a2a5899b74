import CleanSql.Document.Sql
import CleanSql.Proofs.Frame.Column

/-!
# Containment

A table carries three kinds of SQL that are written as they stand: custom expressions, conditions
of cases and conditions on rows. As long as these are neutral, all that is written for the table
is: no other text of a table gets out of its quotes or has a say in parentheses.
-/
namespace CleanSql

section Join

variable {p : Profile}

theorem neutral_empty : Neutral p "" := neutral_of_run (m := .code) rfl rfl

/-- Neutral texts with a separator between them that no quote runs into. -/
theorem neutral_intercalate {sep : String}
    (hsep : ∀ a, Frame.Balanced p [.part a, .text sep, .hole]) {l : List String}
    (h : ∀ s ∈ l, Neutral p s) : Neutral p (String.intercalate sep l) := by
  induction l with
  | nil =>
    rw [String.intercalate_nil]
    exact neutral_empty
  | cons a l ih =>
    rw [List.forall_mem_cons] at h
    cases l with
    | nil =>
      rw [String.intercalate_singleton]
      exact h.1
    | cons b l =>
      have hfill : String.intercalate sep (a :: b :: l) =
          Frame.fill p (String.intercalate sep (b :: l)) [.part a, .text sep, .hole] := by
        simp [Piece.write, String.append_assoc]
      rw [hfill]
      refine Frame.neutral_fill (hsep a) (fun s hs => ?_) (ih h.2)
      rw [List.mem_singleton.mp hs]
      exact h.1

end Join

def TableSpec.verbatimTexts (t : TableSpec) : List String := t.columns.flatMap Column.verbatimTexts

namespace Column

variable (d : Dialect) {c : Column}

theorem neutral_startExpression (h : ∀ s ∈ c.verbatimTexts, Neutral d.profile s) :
    Neutral d.profile (c.startExpression d.profile) := by
  rw [verbatimTexts, List.forall_mem_cons] at h
  unfold startExpression Transformations.customExpression?
  dsimp only
  split
  · exact neutral_quoteIdentifier c.name
  · exact h.1

theorem neutral_value (h : ∀ s ∈ c.verbatimTexts, Neutral d.profile s) :
    Neutral d.profile (c.value d.profile) := by
  rw [value_eq_around]
  refine Frame.neutral_around (c.balanced_valueFrames d) (fun f hf sql hsql => ?_)
    (neutral_startExpression d h)
  exact (c.neutral_or_verbatim d hf hsql).elim id (h sql)

theorem neutral_staged_of_start (h : Neutral d.profile (c.startExpression d.profile)) :
    Neutral d.profile (c.staged d.profile).expression := by
  rw [staged_expression]
  exact Frame.neutral_around (c.balanced_stageFrames d)
    (fun f hf sql hsql => c.neutral_stagePart d hf hsql) h

theorem neutral_staged (h : ∀ s ∈ c.verbatimTexts, Neutral d.profile s) :
    Neutral d.profile (c.staged d.profile).expression :=
  neutral_staged_of_start d (neutral_startExpression d h)

theorem neutral_dropPredicate (h : ∀ s ∈ c.verbatimTexts, Neutral d.profile s) :
    Neutral d.profile (c.dropPredicate d.profile) := by
  rw [dropPredicate, ← Profile.fill_notNullFrame]
  refine Frame.neutral_fill (balanced_notNullFrame d) (List.forall_mem_nil _) ?_
  split
  · exact neutral_staged d h
  · exact neutral_quoteIdentifier c.name

theorem neutral_flag (h : ∀ s ∈ c.verbatimTexts, Neutral d.profile s) :
    ∀ flag ∈ c.flag? d.profile, Neutral d.profile flag.expression := by
  unfold flag?
  split
  · rintro flag ⟨⟩
    rw [← Profile.fill_nullFlagFrame]
    refine Frame.neutral_fill (balanced_nullFlagFrame d) (fun sql hsql => ?_) (neutral_staged d h)
    unfold Profile.nullFlagFrame at hsql
    split at hsql <;> cases hsql
  · nofun

theorem neutral_predicates (h : ∀ s ∈ c.verbatimTexts, Neutral d.profile s) :
    ∀ s ∈ c.predicates d.profile, Neutral d.profile s := by
  intro s hs
  rcases List.mem_append.mp hs with hs | hs
  · split at hs
    · rw [List.mem_singleton.mp hs]
      exact neutral_dropPredicate d h
    · cases hs
  · split at hs
    · rw [List.mem_singleton.mp hs]
      exact h _ (List.mem_cons_of_mem _ List.mem_cons_self)
    · cases hs

end Column

theorem neutral_conjunction (d : Dialect) {l : List String} (h : ∀ s ∈ l, Neutral d.profile s) :
    ∀ sql ∈ conjunction? l, Neutral d.profile sql := by
  unfold conjunction?
  split
  · nofun
  · rintro sql ⟨⟩
    refine neutral_intercalate (fun a => (balanced_and d a).1) fun s hs => ?_
    obtain ⟨q, hq, rfl⟩ := List.mem_map.mp hs
    rw [← Profile.fill_parenFrame]
    exact Frame.neutral_fill (balanced_parenFrame d) (List.forall_mem_nil _) (h q hq)

namespace CompiledColumn

/-- All SQL of the column is neutral. -/
structure Contained (p : Profile) (c : CompiledColumn) : Prop where
  expression : Neutral p c.expression
  rowFilter : ∀ sql ∈ c.rowFilter, Neutral p sql
  flag : ∀ flag ∈ c.flag, Neutral p flag.expression

end CompiledColumn

/-- The malformed columns are nothing but their names. -/
theorem Column.contained_compile (d : Dialect) {c : Column}
    (h : ∀ s ∈ c.verbatimTexts, Neutral d.profile s) : (c.compile d).Contained d.profile := by
  unfold compile
  dsimp only
  split
  · exact ⟨neutral_value d h, neutral_conjunction d (neutral_predicates d h), neutral_flag d h⟩
  · exact ⟨neutral_quoteIdentifier c.name, nofun, nofun⟩

namespace Statement

variable (d : Dialect)

theorem neutral_whereClause {cs : List CompiledColumn} (h : ∀ c ∈ cs, c.Contained d.profile) :
    ∀ sql ∈ whereClause? cs, Neutral d.profile sql := by
  unfold whereClause?
  dsimp only
  split
  · nofun
  · rintro sql ⟨⟩
    refine neutral_intercalate (fun a => (balanced_and d a).1) fun s hs => ?_
    obtain ⟨c, hc, hs⟩ := List.mem_filterMap.mp hs
    exact (h c hc).rowFilter s hs

theorem neutral_selectItem {e : String} (name : String) (he : Neutral d.profile e) :
    Neutral d.profile (selectItem d e name) := by
  have hfill : selectItem d e name =
      Frame.fill d.profile e [.hole, .text " AS ", .part (d.profile.quoteIdentifier name)] := by
    simp [selectItem, Piece.write, String.append_assoc]
  rw [hfill]
  refine Frame.neutral_fill (by cases d <;> exact ⟨_, rfl, rfl⟩) (fun s hs => ?_) he
  rw [List.mem_singleton.mp hs]
  exact neutral_quoteIdentifier name

theorem neutral_columnItems {c : CompiledColumn} (h : c.Contained d.profile) :
    ∀ item ∈ columnItems d c, Neutral d.profile item := by
  refine List.forall_mem_cons.mpr ⟨neutral_selectItem d c.name h.expression, fun item hi => ?_⟩
  obtain ⟨flag, hflag, rfl⟩ := Option.map_eq_some_iff.mp (Option.mem_toList.mp hi)
  exact neutral_selectItem d flag.name (h.flag flag hflag)

theorem neutral_cleanedSelect {s : Statement} (hs : s.dialect = d)
    (hcols : ∀ c ∈ s.projection, c.Contained d.profile)
    (hwhere : ∀ sql ∈ s.whereClause, Neutral d.profile sql) {source : String}
    (hsource : Neutral d.profile source) : Neutral d.profile (s.cleanedSelect source) := by
  have hitems : Neutral d.profile (String.intercalate ",\n        " s.selectItems) := by
    refine neutral_intercalate (fun a => by cases d <;> exact ⟨_, rfl, rfl⟩) fun item hi => ?_
    obtain ⟨c, hc, hi⟩ := List.mem_flatMap.mp hi
    rw [hs] at hi
    exact neutral_columnItems d (hcols c hc) item hi
  have hfill : s.cleanedSelect source = Frame.fill d.profile
      (String.intercalate ",\n        " s.selectItems)
      (.text "    SELECT\n        " :: .hole :: .text "\n    FROM " :: .part source ::
        s.whereClause.elim [.text "\n"] fun sql =>
          [.text "\n    WHERE ", .part sql, .text "\n"]) := by
    unfold cleanedSelect
    cases s.whereClause <;> simp [Piece.write, String.append_assoc]
  rw [hfill]
  refine Frame.neutral_fill ?_ (fun sql hsql => ?_) hitems
  · cases s.whereClause <;> cases d <;> exact ⟨_, rfl, rfl⟩
  · cases hw : s.whereClause with
    | none =>
      rw [hw] at hsql
      rw [List.mem_singleton.mp hsql]
      exact hsource
    | some predicate =>
      rw [hw] at hsql
      obtain rfl | hsql := List.mem_cons.mp hsql
      · exact hsource
      · rw [List.mem_singleton.mp hsql]
        exact hwhere predicate hw

theorem neutral_sqlOver {s : Statement} {source : String}
    (h : Neutral d.profile (s.cleanedSelect source)) : Neutral d.profile (s.sqlOver source) := by
  have hfill : s.sqlOver source = Frame.fill d.profile (s.cleanedSelect source)
      [.text "WITH cleaned AS (\n", .hole, .text ")\nSELECT * FROM cleaned"] := by
    simp only [Frame.fill_cons, Frame.fill_nil, Piece.write, String.append_empty]
    exact String.append_assoc ..
  rw [hfill]
  exact Frame.neutral_fill (by cases d <;> exact ⟨_, rfl, rfl⟩) (List.forall_mem_nil _) h

end Statement

namespace TableSpec

theorem neutral_relation (t : TableSpec) (d : Dialect) (catalog : Option String) :
    Neutral d.profile (t.relation d catalog) := by
  refine neutral_intercalate (fun a => by cases d <;> exact ⟨_, rfl, rfl⟩) fun s hs => ?_
  rcases List.mem_append.mp hs with hs | hs
  · obtain ⟨name, -, rfl⟩ := Option.map_eq_some_iff.mp (Option.mem_toList.mp hs)
    exact neutral_quoteIdentifier name
  · obtain rfl | hs := List.mem_cons.mp hs
    · exact neutral_quoteIdentifier t.layer.name
    · rw [List.mem_singleton.mp hs]
      exact neutral_quoteIdentifier t.name

/-- If the SQL that a table carries is neutral then so is every expression, row filter and flag
that is written for it, the clause of all filters, and the whole document. -/
theorem neutral_compile (d : Dialect) (t : TableSpec) (catalog : Option String)
    (h : ∀ s ∈ t.verbatimTexts, Neutral d.profile s) :
    (∀ c ∈ (t.compile d).projection, Neutral d.profile c.expression ∧
      (∀ sql ∈ c.rowFilter, Neutral d.profile sql) ∧
      ∀ flag ∈ c.flag, Neutral d.profile flag.expression) ∧
    (∀ sql ∈ (t.compile d).whereClause, Neutral d.profile sql) ∧
    Neutral d.profile (t.sql (t.compile d) catalog) := by
  have hcols : ∀ c ∈ (t.compile d).projection, c.Contained d.profile := by
    intro c hc
    obtain ⟨col, hcol, rfl⟩ := List.mem_map.mp hc
    exact col.contained_compile d fun s hs => h s (List.mem_flatMap.mpr ⟨col, hcol, hs⟩)
  have hwhere := Statement.neutral_whereClause d hcols
  refine ⟨fun c hc => ⟨(hcols c hc).expression, (hcols c hc).rowFilter, (hcols c hc).flag⟩,
    hwhere, ?_⟩
  exact Statement.neutral_sqlOver d
    (Statement.neutral_cleanedSelect d rfl hcols hwhere (t.neutral_relation d catalog))

def quotesTable : TableSpec where
  name := "o'(rders]"
  columns :=
    [{ name := "a)]b"
       transformations :=
         { customExpression := " f('(', [x]]] )"
           nullStrategy := .flag
           regex := { enabled := true, pattern := "('", replacement := "\\')" }
           conditional :=
             { enabled := true
               cases := [{ condition := "(a) > '''('", result := "')(" }]
               otherwise := "'" } } },
     { name := "c'"
       transformations :=
         { nullStrategy := .replace
           nullReplacement := "')) --"
           typeCast := " NVARCHAR ( 10 )"
           whereFilter := { enabled := true, condition := "[c'] <> 'x'" } } }]

theorem neutral_compile_quotesTable :
    (∀ s ∈ quotesTable.verbatimTexts, Neutral Dialect.tsql.profile s) ∧
      Neutral Dialect.tsql.profile
        (quotesTable.sql (quotesTable.compile .tsql) (some "cat(alog")) := by
  have h : ∀ s ∈ quotesTable.verbatimTexts, Neutral Dialect.tsql.profile s := by decide
  exact ⟨h, (neutral_compile .tsql quotesTable (some "cat(alog") h).2.2⟩

end TableSpec

end CleanSql
