import CleanSql.Toml.Scalar

/-!
# Tables

The values of a document. Entries are kept in the order of their names. What has been said once
cannot be said again: a table has one header, or grows by dotted keys, or stands inline as a
whole.
-/
namespace CleanSql.Toml

inductive TableForm where
  /-- By a header of its own. -/
  | stated
  /-- By the header of a table inside of it. -/
  | implied
  /-- By a dotted key. -/
  | dotted
  | inline
  deriving DecidableEq, Repr

structure Key where
  span : Span
  name : String
  deriving DecidableEq, Repr

inductive Value where
  | scalar (span : Span) (value : Scalar)
  /-- A list, which may consist of tables with headers of their own. -/
  | list (span : Span) (ofTables : Bool) (items : List Value)
  | table (span : Span) (form : TableForm) (entries : List (Key × Value))

abbrev Entries := List (Key × Value)

namespace Scalar

def kind : Scalar → ValueKind
  | text _ => .text
  | integer _ => .integer
  | float _ => .float
  | bool _ => .bool
  | moment => .moment

end Scalar

namespace Value

def span : Value → Span
  | scalar s _ | list s _ _ | table s _ _ => s

def kind : Value → ValueKind
  | scalar _ v => v.kind
  | list _ _ _ => .list
  | table _ _ _ => .table

end Value

/-- The value of a name, with the key that gave it. -/
def Entries.find? (entries : Entries) (name : String) : Option (Key × Value) :=
  List.find? (fun e => e.1.name = name) entries

/-- Entries with one more, or with another one of the same name. -/
def Entries.insert (key : Key) (value : Value) : Entries → Entries
  | [] => [(key, value)]
  | (k, v) :: rest =>
    if key.name < k.name then (key, value) :: (k, v) :: rest
    else if k.name = key.name then (key, value) :: rest
    else (k, v) :: Entries.insert key value rest

/-- A change of a table's entries, which may depend on the table's form. -/
abbrev Change := TableForm → Entries → Except Fault Entries

def changeLast (change : Change) : List Value → Except Fault (List Value)
  | [] => .ok []
  | [.table span form entries] => do pure [.table span form (← change form entries)]
  | [v] => .ok [v]
  | v :: rest => do pure (v :: (← changeLast change rest))

/-- Changes the table that a path leads to. What is missing on the way becomes a table. The flag
tells that the path is a part of a dotted key, which cannot lead into a table with a header. -/
def changeAt (byDots : Bool) (change : Change) : List Key → Change
  | [], form, entries => change form entries
  | key :: path, _, entries =>
    match entries.find? key.name with
    | none => do
      let form := if byDots then .dotted else .implied
      let inner ← changeAt byDots change path form []
      pure (entries.insert key (.table key.span form inner))
    | some (old, .table span form inner) =>
      if form = .inline then fail (.notExtensible .inlineTable) key.span
      else if byDots && form = .stated then fail .duplicateKey key.span
      else do
        let inner ← changeAt byDots change path form inner
        pure (entries.insert old (.table span form inner))
    | some (old, .list span true items) => do
      let items ← changeLast (changeAt byDots change path) items
      pure (entries.insert old (.list span true items))
    | some (_, v) => fail (.notExtensible v.kind) key.span

/-- Puts a value under a key with dots. A table grows either by plain or by dotted keys. -/
def putEntry (path : List Key) (key : Key) (value : Value) : Change :=
  let byDots := !path.isEmpty
  changeAt byDots (fun form entries =>
    if (form = .dotted) ≠ byDots || (entries.find? key.name).isSome then
      fail .duplicateKey key.span
    else .ok (entries.insert key value)) path

/-- Reads the parts of a key: the way to its last part, and that part. -/
def readKeys (key : DottedKey) : Except Fault (List Key × Key) := do
  let keys ← key.mapM fun w => do pure (Key.mk w.span (← readKey w))
  match keys.reverse with
  | last :: before => pure (before.reverse, last)
  | [] => pure ([], ⟨.point 0, ""⟩)

mutual

def readValue : Expr → Except Fault Value
  | .scalar w => do pure (.scalar w.span (← readScalar w))
  | .list span items => do pure (.list span false (← readItems items))
  | .table span entries => do pure (.table span .inline (← readEntries [] entries))

def readItems : List Expr → Except Fault (List Value)
  | [] => .ok []
  | e :: rest => do
    let v ← readValue e
    pure (v :: (← readItems rest))

def readEntries : Entries → List (DottedKey × Expr) → Except Fault Entries
  | done, [] => .ok done
  | done, (key, e) :: rest => do
    let (path, last) ← readKeys key
    let v ← readValue e
    readEntries (← putEntry path last v .stated done) rest

end

/-- The table that entries are put into. -/
structure Section where
  path : List Key
  /-- Its key and the place of its header; the root has none. -/
  header : Option (Key × Span)
  inList : Bool
  entries : Entries

def Section.close (s : Section) (root : Entries) : Except Fault Entries :=
  match s.header with
  | none => .ok s.entries
  | some (key, span) =>
    let table := Value.table span .stated s.entries
    changeAt false (fun _ entries =>
      if s.inList then
        match entries.find? key.name with
        | some (old, .list place true items) =>
          .ok (entries.insert old (.list place true (items ++ [table])))
        | some _ => fail .duplicateKey key.span
        | none => .ok (entries.insert key (.list span true [table]))
      else .ok (entries.insert key table)) s.path .stated root

def valueAt? : List Key → Key → Entries → Except Fault (Option Value)
  | [], key, entries => .ok ((entries.find? key.name).map (·.2))
  | step :: path, key, entries =>
    match entries.find? step.name with
    | none => .ok none
    | some (_, .table _ form inner) =>
      if form = .inline then fail (.notExtensible .inlineTable) step.span
      else valueAt? path key inner
    | some (_, .list _ true items) =>
      match items.getLast? with
      | some (.table _ _ inner) => valueAt? path key inner
      | _ => .ok none
    | some (_, v) => fail (.notExtensible v.kind) step.span

/-- What a table holds before its header, which is only what other headers imply. -/
def entriesBefore (path : List Key) (key : Key) (inList : Bool) (root : Entries) :
    Except Fault Entries := do
  match ← valueAt? path key root, inList with
  | none, _ => pure []
  | some (.list _ true _), true => pure []
  | some (.table _ .implied entries), false => pure entries
  | some _, _ => fail .duplicateKey key.span

/-- Reads statements into the section they belong to and the tables before it. -/
def readStatements : Section → Entries → List Statement → Except Fault Entries
  | s, root, [] => s.close root
  | s, root, .entry key e :: rest => do
    let (path, last) ← readKeys key
    let v ← readValue e
    let entries ← putEntry path last v .stated s.entries
    readStatements { s with entries := entries } root rest
  | s, root, .header span inList key :: rest => do
    let (path, last) ← readKeys key
    let root ← s.close root
    let entries ← entriesBefore path last inList root
    readStatements ⟨path, some (last, span), inList, entries⟩ root rest

/-- Reads a text as one table, which has no place of its own. -/
def parse (text : String) : Except Fault Value := do
  let entries ← readStatements ⟨[], none, false, []⟩ [] (← statements text)
  pure (.table (.point 0) .stated entries)

end CleanSql.Toml
