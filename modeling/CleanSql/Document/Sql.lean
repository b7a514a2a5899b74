import CleanSql.Statement

/-!
# SQL documents

A statement as one query: a common table expression `cleaned` over the source relation.
-/
namespace CleanSql

/-- The source relation, by catalog if there is one, layer and table. -/
def TableSpec.relation (t : TableSpec) (d : Dialect) (catalog : Option String) : String :=
  let quote := d.profile.quoteIdentifier
  String.intercalate "."
    (((catalog.filter (· ≠ "")).map quote).toList ++ [quote t.layer.name, quote t.name])

namespace Statement

def selectItem (d : Dialect) (expression name : String) : String :=
  expression ++ " AS " ++ d.profile.quoteIdentifier name

/-- What is selected for one column: its value, and its flag if it has one. -/
def columnItems (d : Dialect) (c : CompiledColumn) : List String :=
  selectItem d c.expression c.name ::
    (c.flag.map fun flag => selectItem d flag.expression flag.name).toList

def selectItems (s : Statement) : List String := s.projection.flatMap (columnItems s.dialect)

/-- The query that is named `cleaned`. -/
def cleanedSelect (s : Statement) (source : String) : String :=
  "    SELECT\n        " ++ String.intercalate ",\n        " s.selectItems ++ "\n    FROM " ++
    source ++ (s.whereClause.elim "" fun predicate => "\n    WHERE " ++ predicate) ++ "\n"

def sqlOver (s : Statement) (source : String) : String :=
  "WITH cleaned AS (\n" ++ s.cleanedSelect source ++ ")\nSELECT * FROM cleaned"

end Statement

def TableSpec.sql (t : TableSpec) (s : Statement) (catalog : Option String) : String :=
  s.sqlOver (t.relation s.dialect catalog)

end CleanSql
