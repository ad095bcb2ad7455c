import ComponentAtlas.Script.Dialect
import ComponentAtlas.Script.Semicolon
import ComponentAtlas.Script.Literal

/-!
# The parts of a grammar

Expressions, types, patterns, markup and statements contain one another. A grammar holds a
reader for each of these parts, and the rules of one part are written over a grammar that
reads the parts inside it. Each nesting uses a grammar that may nest once less.
-/

namespace ComponentAtlas.Script

open Syntax

/-- Readers for the parts that occur inside one another. `operand` reads an expression
without infix operators, `access` one without prefix operators or assignment. -/
structure Grammar where
  dialect : Dialect
  expression : Place → Reader Node
  operand : Place → Reader Node
  access : Place → Reader Node
  type : Place → Reader Node
  pattern : Reader Node
  element : Reader Node
  statement : Reader Node

namespace Grammar

/-- The grammar that reads nothing. -/
def empty (dialect : Dialect) : Grammar :=
  { dialect, expression := fun _ => failure, operand := fun _ => failure
    access := fun _ => failure, type := fun _ => failure, pattern := failure
    element := failure, statement := failure }

end Grammar

end ComponentAtlas.Script
