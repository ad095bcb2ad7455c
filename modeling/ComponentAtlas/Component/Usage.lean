import ComponentAtlas.Component.Definition
import ComponentAtlas.Component.Distinct

/-!
# Component usages

The components that a definition renders are the capitalised tags of its body. Functions,
classes and wrapped functions inside the body are scopes of their own: their markup
belongs to them, so the search never enters them.
-/

namespace ComponentAtlas.Component

open Syntax

/-- A node that starts a scope of its own: a declared function or class, a variable bound
to a function or a wrapper call, or a wrapper call. -/
def opensScope (conventions : Conventions) (node : Node) : Bool :=
  if node.isFunctionDeclaration || node.isClassDeclaration then true
  else if node.isDeclarator then
    match (node.child? "value").map Node.unwrapped with
    | some value => value.isFunctionExpression || value.isForwardingCall conventions
    | none => false
  else node.isForwardingCall conventions

/-- The nodes below a body that belong to it, in document order. -/
def ownNodes (conventions : Conventions) (body : Node) : List Node :=
  let belongs := fun node => !opensScope conventions node
  Node.walk belongs (body.children.filter belongs)

/-- The component that a tag renders. -/
def rendered? (node : Node) : Option String :=
  if node.isTag then
    ((node.child? "name").bind Node.tagName?).filter isName
  else none

/-- The components that a body renders, each once, in source order. -/
def childComponents (conventions : Conventions) (body : Node) : List String :=
  firstOccurrences ((ownNodes conventions body).filterMap rendered?)

end ComponentAtlas.Component
