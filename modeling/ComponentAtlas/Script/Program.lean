import ComponentAtlas.Script.Statement
import ComponentAtlas.Script.Markup

/-!
# Programs

A script is a row of statements, perhaps after a first line that names its interpreter.
Reading either yields the syntax tree of the whole script or nothing: a script with any
error has no tree. The tree holds the nodes that mean something; punctuation and comments
are left out of it.

Every part of a script that lies inside another starts at or after its first character,
so the length of the script bounds how deeply grammars nest.
-/

namespace ComponentAtlas.Script

open Reader Syntax

/-- The grammar whose parts nest at most the given number of times. -/
def grammar (dialect : Dialect) : Nat → Grammar
  | 0 => .empty dialect
  | depth + 1 =>
    { dialect
      expression := fun place here => Expression.expression (grammar dialect depth) place here
      operand := fun place here => Expression.operand (grammar dialect depth) place here
      access := fun place here => Expression.access (grammar dialect depth) place here
      type := fun place here => Types.type (grammar dialect depth) place here
      pattern := fun here => Binding.pattern (grammar dialect depth) here
      element := fun here => Markup.element (grammar dialect depth) here
      statement := fun here => Statement.statement (grammar dialect depth) here }

/-- The line that names the interpreter of a script. -/
def interpreterLine : Reader Unit := do
  symbol "#!"
  let _ ← run fun c => c != '\n'

/-- A whole script. -/
def program (g : Grammar) : Reader Node := do
  let _ ← option? interpreterLine
  let statements ← many g.statement
  finish
  return Node.branch "program" statements

/-- The number of grammars that may be entered without reading a character. -/
def grammarsPerCharacter : Nat := 8

/-- The syntax tree of a script, or nothing if the script has an error. -/
def read? (dialect : Dialect) (source : String) : Option Node :=
  let chars := source.toList
  (program (grammar dialect (grammarsPerCharacter * (chars.length + 1))) chars).map (·.1)

/-- The tree of any script. Of a script with an error it says only that there is one. -/
def tree (dialect : Dialect) (source : String) : Node :=
  (read? dialect source).getD { Node.branch "program" [] with hasError := true }

end ComponentAtlas.Script
