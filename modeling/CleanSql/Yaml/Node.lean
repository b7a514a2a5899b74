import CleanSql.Yaml.Lexeme.Scalar

/-!
# YAML documents

A document is kept as far as it can be read. What stops the reading is a part of the tree, so
that a reader that looks for something finds the first fault in the order of the text, be it in
the spelling or in what is said.
-/
namespace CleanSql.Yaml

inductive Node where
  /-- There is no node. -/
  | missing (fault : Fault)
  | scalar (place : Mark) (tag : Option String) (style : Style) (text : String)
  /-- Another node of the document, by the number of its anchor. -/
  | reference (place : Mark) (anchor : Nat)
  | list (place : Mark) (tag : Option String) (items : List Node) (stop : Option Fault)
  | map (place : Mark) (tag : Option String) (entries : List (Node × Node)) (stop : Option Fault)

namespace Node

mutual

/-- The first fault of a node that is passed over. Aliases are not followed. -/
def skip? : Node → Option Fault
  | missing f => some f
  | scalar _ _ _ _ | reference _ _ => none
  | list _ _ items stop => (skipItems? items).or stop
  | map _ _ entries stop => (skipEntries? entries).or stop

def skipItems? : List Node → Option Fault
  | [] => none
  | item :: rest => item.skip?.or (skipItems? rest)

def skipEntries? : List (Node × Node) → Option Fault
  | [] => none
  | (key, value) :: rest => (key.skip?.or value.skip?).or (skipEntries? rest)

end

end Node

/-- The nodes with anchors. Numbers may be given twice; the node that starts later has it. -/
structure Anchors where
  /-- The numbers of the anchors, each with the order of its node, the latest first. -/
  orders : List (Nat × Nat) := []
  nodes : List (Nat × Node) := []

def Anchors.node? (a : Anchors) (number : Nat) : Option Node :=
  (a.orders.lookup number).bind fun order => a.nodes.lookup order

/-- A document, with what is wrong behind it. -/
structure Document where
  root : Node
  anchors : Anchors
  trailing : Option Fault

end CleanSql.Yaml
