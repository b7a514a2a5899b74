import CleanSql.Error
import CleanSql.Json.Decode
import CleanSql.Toml.Decode
import CleanSql.Yaml.Decode

/-!
# Table documents

The extension of a file says how its text is written. A file without one of the known extensions
holds JSON.
-/
namespace CleanSql

inductive TableFormat where
  | json
  | yaml
  | toml
  deriving DecidableEq, Repr

/-- The name of the file at the end of a path, unless the path ends in a step to a directory. -/
def fileName? (path : String) : Option String :=
  let parts := (path.splitOn "/").filter fun part => part ≠ ""
  match parts.reverse.dropWhile (· = ".") with
  | [] => none
  | last :: _ => if last = ".." then none else some last

/-- What stands behind the last dot of a name, unless it is its only dot and comes first. -/
def extension? (name : String) : Option String :=
  match (name.splitOn ".").reverse with
  | last :: before@(_ :: _) => if before = [""] then none else some last
  | _ => none

namespace TableFormat

def name : TableFormat → String
  | json => "json"
  | yaml => "yaml"
  | toml => "toml"

def ofPath (path : String) : TableFormat :=
  match ((fileName? path).bind extension?).map fun e => e.map Char.toLower with
  | some "yaml" | some "yml" => yaml
  | some "toml" => toml
  | _ => json

end TableFormat

def TableFormat.read : TableFormat → String → Except String TableSpec
  | json => Json.readTable
  | yaml => Yaml.readTable
  | toml => Toml.readTable

/-- Reads a table from a text; its source is named if that fails. -/
def TableSpec.ofText (format : TableFormat) (source text : String) : Except Failure TableSpec :=
  (format.read text).mapError (.unreadableTable source)

end CleanSql
