import ComponentAtlas.Component.Name
import ComponentAtlas.Syntax.Shape

/-!
# Component definitions

A module defines a component by a capitalised function declaration, by a capitalised
variable bound to a function that renders markup or to a wrapper call around a function,
or by a capitalised class that extends a component base class. A definition carries the
node whose descendants form the component's body.

Candidates are the declarations of the module's top level, where `export` is looked
through, or the declarations at every depth.
-/

namespace ComponentAtlas.Component

open Syntax

/-- The syntactic forms of a component definition. -/
inductive Form where
  | functionDeclaration
  | functionBinding
  | refForwardingBinding
  | classDeclaration
  deriving Repr, DecidableEq

/-- The form's name in reports. -/
def Form.label : Form → String
  | .functionDeclaration => "function_declaration"
  | .functionBinding => "function_binding"
  | .refForwardingBinding => "ref_forwarding_binding"
  | .classDeclaration => "class_declaration"

/-- A binding recognised as a component definition. -/
structure Definition where
  name : String
  form : Form
  body : Node
  deriving Repr

namespace Definition

/-- The text of the node that names a declaration. -/
def declaredName (node : Node) : String := ((node.child? "name").map Node.text).getD ""

/-- A capitalised function declaration is a definition, and its own body. -/
def ofFunction? (node : Node) : Option Definition :=
  let name := declaredName node
  if isName name then some ⟨name, .functionDeclaration, node⟩ else none

/-- What a variable's value defines. A function has to render markup, so that capitalised
helpers are left out; a wrapper call has to be given a function, which is then the body. -/
def ofValue? (conventions : Conventions) (name : String) (value : Node) : Option Definition :=
  if value.isFunctionExpression then
    if value.containsMarkup then some ⟨name, .functionBinding, value⟩ else none
  else if value.isForwardingCall conventions then
    match value.firstArgument?.map Node.unwrapped with
    | some inner =>
      if inner.isFunctionExpression then some ⟨name, .refForwardingBinding, inner⟩ else none
    | none => none
  else none

/-- A capitalised variable, by its value. A destructuring pattern names no component. -/
def ofDeclarator? (conventions : Conventions) (node : Node) : Option Definition := do
  let nameNode ← node.child? "name"
  guard (nameNode.kind == "identifier")
  let name := nameNode.text
  guard (isName name)
  let value ← node.child? "value"
  ofValue? conventions name value.unwrapped

/-- A capitalised class whose superclass is a component base class. -/
def ofClass? (conventions : Conventions) (node : Node) : Option Definition := do
  let name := declaredName node
  guard (isName name)
  let superclass ← node.superclass?
  guard (superclass.unwrapped.refersTo conventions conventions.componentBaseClasses)
  return ⟨name, .classDeclaration, node⟩

/-- The definition that a declaration makes, if any. -/
def ofNode? (conventions : Conventions) (node : Node) : Option Definition :=
  if node.isFunctionDeclaration then ofFunction? node
  else if node.isDeclarator then ofDeclarator? conventions node
  else if node.isClassDeclaration then ofClass? conventions node
  else none

end Definition

/-! ## Candidates -/

/-- What a top-level statement offers: itself, or the variables that it declares. -/
def statementCandidates (statement : Node) : List Node :=
  if statement.isVariableDeclaration then statement.namedChildren.filter Node.isDeclarator
  else [statement]

/-- The declaration that an `export` carries, and any other statement itself. -/
def exported? (statement : Node) : Option Node :=
  if statement.kind == "export_statement" then statement.child? "declaration"
  else some statement

/-- The candidates of a module's top level. -/
def moduleCandidates (root : Node) : List Node :=
  (root.namedChildren.filterMap exported?).flatMap statementCandidates

/-- The candidates at every depth. -/
def allCandidates (root : Node) : List Node := root.descendants.filter Node.isDeclaration

/-- The component definitions of a module, in source order. -/
def definitions (conventions : Conventions) (root : Node) : List Definition :=
  let candidates :=
    if conventions.includeNested then allCandidates root else moduleCandidates root
  candidates.filterMap (Definition.ofNode? conventions)

end ComponentAtlas.Component
