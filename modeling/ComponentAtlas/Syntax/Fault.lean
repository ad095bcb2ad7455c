import ComponentAtlas.Syntax.Node

/-!
# Syntax faults

A tree that a reader had to repair holds error nodes and missing nodes. Its diagnostic
names the first of them in document order. Only children that carry a flag are entered,
since every node above a fault is flagged.
-/

namespace ComponentAtlas.Syntax.Node

/-- An error node, or a node that the reader supplied. -/
def isFault (node : Node) : Bool := node.kind == "ERROR" || node.isMissing

/-- A node that may be a fault or hold one. -/
def isSuspect (node : Node) : Bool := node.hasError || node.isMissing

/-- What is wrong at a fault, and where, with counts from one. -/
def faultReport (node : Node) : String :=
  let label := if node.isMissing then s!"Missing '{node.kind}'" else "Unexpected syntax"
  s!"{label} (line {node.position.row + 1}, column {node.position.column + 1})"

/-- The diagnostic of a tree: its first fault, or a bare notice when none is found. -/
def describeFirstFault (root : Node) : String :=
  match (walk isSuspect [root]).find? isFault with
  | some fault => fault.faultReport
  | none => "Syntax error"

end ComponentAtlas.Syntax.Node
