import ComponentAtlas.Script.Grammar

/-!
# Infix operators

Operators with their binding strength. A row of operands with operators between them is
grouped into a tree: a stronger operator takes its operands first, and of two equally
strong ones the left, except that powers group to the right.
-/

namespace ComponentAtlas.Script

open Syntax

/-- An infix operator: how strongly it binds, whether it groups to the right, and the kind of
the expression that it makes. -/
structure Operator where
  strength : Nat
  toRight : Bool
  kind : String
  deriving Repr, DecidableEq

namespace Operator

/-- An operator that makes a binary expression and groups to the left. -/
def binary (strength : Nat) : Operator := ⟨strength, false, "binary_expression"⟩

/-- The operators that are signs. An earlier one is preferred, so longer signs come before
those that they start with. The flag tells whether an equality sign after the operator makes
it an assignment. -/
def signs : List (String × Bool × Operator) := [
  ("===", false, binary 7), ("!==", false, binary 7), ("==", false, binary 7),
  ("!=", false, binary 7), (">>>", true, binary 9), (">>", true, binary 9),
  ("<<", true, binary 9), ("<=", false, binary 8), (">=", false, binary 8),
  ("&&", true, binary 3), ("||", true, binary 2), ("??", true, binary 1),
  ("**", true, ⟨12, true, "binary_expression"⟩), ("<", false, binary 8),
  (">", false, binary 8), ("&", true, binary 6), ("|", true, binary 4), ("^", true, binary 5),
  ("+", true, binary 10), ("-", true, binary 10), ("*", true, binary 11),
  ("/", true, binary 11), ("%", true, binary 11)]

/-- The operators that are words and take another operand. -/
def words : List (String × Operator) := [("instanceof", binary 8), ("in", binary 8)]

/-- The operators that are words and take a type. -/
def typeWords : List (String × Operator) := [
  ("as", ⟨8, false, "as_expression"⟩), ("satisfies", ⟨8, false, "satisfies_expression"⟩)]

/-- The expression that an operator makes of two parts. -/
def apply (operator : Operator) (left right : Node) : Node :=
  Node.branch operator.kind [left.inField "left", right.inField "right"]

/-- Closes the pending operators that bind the last operand at least as strongly as `next`
does, and returns the pending ones that are left. -/
def close (next : Operator) : List (Node × Operator) → Node → List (Node × Operator) × Node
  | [], last => ([], last)
  | (left, operator) :: pending, last =>
    if next.strength < operator.strength ||
        (next.strength == operator.strength && !operator.toRight) then
      close next pending (operator.apply left last)
    else ((left, operator) :: pending, last)

/-- Groups a row of operands. The pending operators are those whose right operand may still
grow. -/
def group : List (Node × Operator) → Node → List (Operator × Node) → Node
  | pending, last, [] =>
    pending.foldl (fun right (left, operator) => operator.apply left right) last
  | pending, last, (operator, next) :: rest =>
    let (pending, left) := close operator pending last
    group ((left, operator) :: pending) next rest

end Operator

end ComponentAtlas.Script
