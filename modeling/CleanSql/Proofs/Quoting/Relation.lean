import CleanSql.Document.Sql
import CleanSql.Proofs.Quoting.Literal

/-!
# Source relations

A quoted identifier is read by the rule that its closing character is doubled inside
(`Profile.read_quoteIdentifier`), and names that are joined by points are read one after the other
(`Profile.readNames_intercalate`). So a source relation says which catalog, layer and table it is
of, whatever these are called (`TableSpec.relation_says_names`).
-/
namespace CleanSql

def IdentifierQuote.rule (q : IdentifierQuote) : QuoteRule where
  opening := q.opening
  closing := q.closing
  doubles := true
  escapes := none

theorem IdentifierQuote.encodes_escape (q : IdentifierQuote) : q.rule.Encodes q.escape := by
  intro c rest
  unfold escape
  split_ifs with h
  · subst h
    exact QuoteRule.readBody_doubled rfl rest
  · exact QuoteRule.readBody_plain h (fun _ => rfl) rest

theorem IdentifierQuote.closing_ne_point (q : IdentifierQuote) : q.closing ≠ '.' := by
  cases q <;> decide

namespace Profile

variable (p : Profile)

/-- Reads a quoted identifier at the start of a text: its name, and the text behind it. -/
def readIdentifier (text : String) : Option (String × String) :=
  p.identifierQuote.rule.readText text

def readNames (cs : List Char) : Option (List String) :=
  match _h : p.identifierQuote.rule.read cs with
  | none => none
  | some (name, []) => some [String.ofList name]
  | some (name, c :: rest) =>
    if c = '.' then (readNames rest).map (String.ofList name :: ·) else none
termination_by cs.length
decreasing_by exact Nat.lt_of_succ_lt (QuoteRule.length_lt_of_read _h)

theorem read_quoteIdentifier (name : String) {rest : List Char}
    (h : rest.head? ≠ some p.identifierQuote.closing) :
    p.identifierQuote.rule.read ((p.quoteIdentifier name).toList ++ rest) =
      some (name.toList, rest) := by
  rw [toList_quoteIdentifier]
  exact QuoteRule.read_quoted p.identifierQuote.encodes_escape (fun _ => h) name.toList

theorem readIdentifier_quoteIdentifier (name : String) {rest : String}
    (h : rest.toList.head? ≠ some p.identifierQuote.closing) :
    p.readIdentifier (p.quoteIdentifier name ++ rest) = some (name, rest) :=
  QuoteRule.readText_append (p.read_quoteIdentifier name h)

theorem readNames_of_read_last {cs name : List Char}
    (h : p.identifierQuote.rule.read cs = some (name, [])) :
    p.readNames cs = some [String.ofList name] := by
  rw [readNames]
  split
  · next hnone => cases h.symm.trans hnone
  · next hlast =>
    cases h.symm.trans hlast
    rfl
  · next hmore => cases h.symm.trans hmore

theorem readNames_of_read_point {cs name rest : List Char}
    (h : p.identifierQuote.rule.read cs = some (name, '.' :: rest)) :
    p.readNames cs = (p.readNames rest).map (String.ofList name :: ·) := by
  rw [readNames]
  split
  · next hnone => cases h.symm.trans hnone
  · next hlast => cases h.symm.trans hlast
  · next hmore =>
    cases h.symm.trans hmore
    rfl

theorem readNames_intercalate {names : List String} (h : names ≠ []) :
    p.readNames (String.intercalate "." (names.map p.quoteIdentifier)).toList = some names := by
  induction names with
  | nil => exact absurd rfl h
  | cons name names ih =>
    cases names with
    | nil =>
      have hrest : ([] : List Char).head? ≠ some p.identifierQuote.closing := nofun
      have hread := p.read_quoteIdentifier name hrest
      rw [List.append_nil] at hread
      rw [List.map_singleton, String.intercalate_singleton, p.readNames_of_read_last hread,
        String.ofList_toList]
    | cons next names =>
      have hjoin : (String.intercalate "." ((name :: next :: names).map p.quoteIdentifier)).toList =
          (p.quoteIdentifier name).toList ++
            '.' :: (String.intercalate "." ((next :: names).map p.quoteIdentifier)).toList := by
        rw [List.map_cons, String.intercalate_cons_of_ne_nil (by simp), String.append_assoc,
          String.toList_append, String.toList_append]
        rfl
      have hrest (cs : List Char) : ('.' :: cs).head? ≠ some p.identifierQuote.closing :=
        fun h => p.identifierQuote.closing_ne_point (Option.some.inj h).symm
      have hread := p.read_quoteIdentifier name (hrest
        (String.intercalate "." ((next :: names).map p.quoteIdentifier)).toList)
      rw [hjoin, p.readNames_of_read_point hread, ih (List.cons_ne_nil _ _), Option.map_some,
        String.ofList_toList]

end Profile

theorem Layer.name_injective {a b : Layer} (h : a.name = b.name) : a = b := by
  cases a <;> cases b <;> revert h <;> decide

namespace TableSpec

/-- The names that say which relation a table is read from. -/
def relationNames (t : TableSpec) (catalog : Option String) : List String :=
  (catalog.filter (· ≠ "")).toList ++ [t.layer.name, t.name]

theorem relation_eq (t : TableSpec) (d : Dialect) (catalog : Option String) :
    t.relation d catalog =
      String.intercalate "." ((t.relationNames catalog).map d.profile.quoteIdentifier) := by
  rw [relation, relationNames, List.map_append, Option.toList_map]
  rfl

theorem relationNames_inj {t t' : TableSpec} {catalog catalog' : Option String} :
    t.relationNames catalog = t'.relationNames catalog' ↔
      catalog.filter (· ≠ "") = catalog'.filter (· ≠ "") ∧ t.layer = t'.layer ∧
        t.name = t'.name := by
  constructor
  · intro h
    obtain ⟨hcatalog, hnames⟩ := List.append_inj' h rfl
    obtain ⟨hlayer, hname⟩ := List.cons.inj hnames
    have hhead := congrArg List.head? hcatalog
    rw [Option.head?_toList, Option.head?_toList] at hhead
    exact ⟨hhead, Layer.name_injective hlayer, (List.cons.inj hname).1⟩
  · rintro ⟨hcatalog, hlayer, hname⟩
    rw [relationNames, relationNames, hcatalog, hlayer, hname]

/-- A quoted identifier is read back in its dialect, and the reader stops right behind it, whatever
stands there but for the closing quote. So a source relation is read back as the names of its
catalog if there is one, its layer and its table, and two of them are the same text only if all of
these are the same. -/
theorem relation_says_names (d : Dialect) {name rest : String}
    (h : rest.toList.head? ≠ some d.profile.identifierQuote.closing) :
    d.profile.readIdentifier (d.profile.quoteIdentifier name ++ rest) = some (name, rest) ∧
    (∀ (t : TableSpec) (catalog : Option String),
      d.profile.readNames (t.relation d catalog).toList = some (t.relationNames catalog)) ∧
    ∀ (t t' : TableSpec) (catalog catalog' : Option String),
      t.relation d catalog = t'.relation d catalog' ↔
        catalog.filter (· ≠ "") = catalog'.filter (· ≠ "") ∧ t.layer = t'.layer ∧
          t.name = t'.name := by
  have hread (t : TableSpec) (catalog : Option String) :
      d.profile.readNames (t.relation d catalog).toList = some (t.relationNames catalog) := by
    rw [relation_eq, d.profile.readNames_intercalate (by simp [relationNames])]
  refine ⟨d.profile.readIdentifier_quoteIdentifier name h, hread, fun t t' catalog catalog' => ?_⟩
  rw [← relationNames_inj]
  refine ⟨fun heq => ?_, fun heq => ?_⟩
  · rw [← Option.some_inj, ← hread, ← hread, heq]
  · rw [relation_eq, relation_eq, heq]

/-- A table whose name has points, quotes and brackets at its ends and inside. -/
def dottedTable : TableSpec where
  name := "].[\"\x60a]]\".\"b."
  layer := .silver
  columns := []

theorem relation_says_names_dottedTable :
    (".x" : String).toList.head? ≠ some Dialect.tsql.profile.identifierQuote.closing ∧
    Dialect.tsql.profile.readIdentifier
        (Dialect.tsql.profile.quoteIdentifier dottedTable.name ++ ".x") =
      some (dottedTable.name, ".x") ∧
    Dialect.tsql.profile.readNames (dottedTable.relation .tsql (some "main.c")).toList =
      some ["main.c", "silver", "].[\"\x60a]]\".\"b."] := by
  have hrest : (".x" : String).toList.head? ≠
      some Dialect.tsql.profile.identifierQuote.closing := by
    decide
  obtain ⟨hname, hnames, -⟩ := @relation_says_names .tsql dottedTable.name ".x" hrest
  exact ⟨hrest, hname, hnames dottedTable (some "main.c")⟩

end TableSpec

end CleanSql
