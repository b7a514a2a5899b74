import CleanSql.Query.Reader

/-!
# Names of types
-/
namespace CleanSql.Query

/-- Types that nothing follows. -/
def bareTypes : List String :=
  ["BOOLEAN", "BOOL", "REAL", "FLOAT4", "FLOAT8", "FLOAT32", "FLOAT64", "INT64", "INT128", "INT256",
    "HUGEINT", "UUID", "DATE", "DATE32", "JSON", "JSONB", "REGCLASS", "TEXT", "TINYTEXT",
    "MEDIUMTEXT", "LONGTEXT", "TINYBLOB", "MEDIUMBLOB", "LONGBLOB", "BYTEA", "TSVECTOR", "TSQUERY"]

/-- Types that numbers in parentheses may follow, and how many. -/
def sizedTypes : List (String × Nat) :=
  [("FLOAT", 1), ("DOUBLE", 2), ("TINYINT", 1), ("INT2", 1), ("SMALLINT", 1), ("MEDIUMINT", 1),
    ("INT", 1), ("INT4", 1), ("INT8", 1), ("INTEGER", 1), ("BIGINT", 1), ("VARCHAR", 1),
    ("NVARCHAR", 1), ("CHAR", 1), ("CHARACTER", 1), ("CLOB", 1), ("BINARY", 1), ("VARBINARY", 1),
    ("BLOB", 1), ("BYTES", 1), ("BIT", 1), ("DATETIME", 1), ("TIMESTAMP", 1), ("TIMESTAMPTZ", 1),
    ("TIMESTAMP_NTZ", 1), ("TIME", 1), ("TIMETZ", 1), ("STRING", 1), ("NUMERIC", 2),
    ("DECIMAL", 2), ("DEC", 2), ("BIGNUMERIC", 2), ("BIGDECIMAL", 2), ("SIGNED", 0),
    ("UNSIGNED", 0), ("INTERVAL", 0)]

/-- What may stand between the name of a type and its size. -/
def betweenTypeAndSize : String → List String
  | "DOUBLE" => ["PRECISION"]
  | "CHAR" | "CHARACTER" | "BIT" => ["VARYING"]
  | "SIGNED" | "UNSIGNED" => ["INTEGER"]
  | _ => []

def literalInteger : Reader Unit := do
  match ← nextToken with
  | some (.number _) => advance
  | _ => expected "literal int"

def sizes : Nat → Reader Unit
  | 0 => pure ()
  | n + 1 => do
    if ← keyword? "MAX" then pure ()
    else
      literalInteger
      if n ≠ 0 then if ← symbol? "," then sizes n else pure () else pure ()

def sized (name : String) (count : Nat) : Reader Unit := do
  let _ ← oneOf? (betweenTypeAndSize name)
  if count ≠ 0 then
    if ← symbol? "(" then
      sizes count
      symbol ")"
  if name = "TIMESTAMP" || name = "TIME" then
    if ← phrase? ["WITH", "TIME", "ZONE"] then pure ()
    else let _ ← phrase? ["WITHOUT", "TIME", "ZONE"]
  let _ ← keyword? "UNSIGNED"

/-- One thing among those in parentheses behind a type of its own. -/
def modifier : Reader Bool := do
  match ← nextToken with
  | some (.word _ _) | some (.number _) | some (.text _) | some (.symbol ",") => advance; pure true
  | _ => pure false

/-- The name of a type; tells whether it is one that every dialect knows. -/
def typeName : Reader Bool := do
  match ← nextToken with
  | some (.word name quote) =>
    let key := name.toUpper
    if quote.isNone && bareTypes.contains key then advance; pure true
    else
      match if quote.isNone then sizedTypes.lookup key else none with
      | some count =>
        advance
        sized key count
        pure true
      | none =>
        qualifiedName
        if ← symbol? "(" then
          whileFound modifier
          if ← symbol? ")" then pure () else expected "type modifiers"
        pure false
  | _ => expected "a data type name"

end CleanSql.Query
