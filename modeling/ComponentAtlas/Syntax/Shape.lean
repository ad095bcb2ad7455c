import ComponentAtlas.Syntax.Node
import ComponentAtlas.Syntax.Conventions

/-!
# Shapes of syntax

The vocabulary of node kinds, and the small readings that the analyses share: looking
through parentheses, recognising a framework name or a wrapper call, the superclass of a
class, the name of a markup tag.
-/

namespace ComponentAtlas.Syntax.Node

/-! ## Kinds -/

/-- A function declared as a statement. -/
def isFunctionDeclaration (node : Node) : Bool :=
  node.kind ∈ ["function_declaration", "generator_function_declaration"]

/-- A function that is a value. The kind `function` names the same thing in older trees. -/
def isFunctionExpression (node : Node) : Bool :=
  node.kind ∈ ["arrow_function", "function_expression", "function", "generator_function"]

/-- A class declared as a statement. -/
def isClassDeclaration (node : Node) : Bool :=
  node.kind ∈ ["class_declaration", "abstract_class_declaration"]

/-- A statement that declares variables. -/
def isVariableDeclaration (node : Node) : Bool :=
  node.kind ∈ ["lexical_declaration", "variable_declaration"]

/-- One variable of such a statement. -/
def isDeclarator (node : Node) : Bool := node.kind == "variable_declarator"

/-- A declaration that may define a component. -/
def isDeclaration (node : Node) : Bool :=
  node.isFunctionDeclaration || node.isClassDeclaration || node.isDeclarator

/-- A markup element or fragment. -/
def isMarkup (node : Node) : Bool :=
  node.kind ∈ ["jsx_element", "jsx_self_closing_element", "jsx_fragment"]

/-- A tag that opens an element or stands for a whole one. -/
def isTag (node : Node) : Bool :=
  node.kind ∈ ["jsx_opening_element", "jsx_self_closing_element"]

/-! ## Looking through parentheses -/

/-- A significant child is smaller than its parent. -/
theorem size_lt_of_significant {child node : Node} (member : child ∈ node.significantChildren) :
    child.size < node.size := by
  have inside : child ∈ node.children :=
    (List.mem_filter.mp (List.mem_filter.mp member).1).1
  have := size_lt_of_mem inside
  rw [size_eq node]; omega

/-- So is a named child. -/
theorem size_lt_of_named {child node : Node} (member : child ∈ node.namedChildren) :
    child.size < node.size := by
  have := size_lt_of_mem (List.mem_filter.mp member).1
  rw [size_eq node]; omega

/-- So is what fills a field. -/
theorem size_lt_of_child {child node : Node} {field : String}
    (found : node.child? field = some child) : child.size < node.size := by
  have := size_lt_of_mem (List.mem_of_find?_eq_some found)
  rw [size_eq node]; omega

/-- The expression inside redundant parentheses. Parentheses around anything but one
expression stay, comments not counted. -/
def unwrapped (node : Node) : Node :=
  if node.kind == "parenthesized_expression" then
    match _inner : node.significantChildren with
    | [child] => unwrapped child
    | _ => node
  else node
termination_by node.size
decreasing_by exact size_lt_of_significant (by simp [_inner])

/-- Anything but parentheses is not looked through. -/
theorem unwrapped_of_kind_ne {node : Node} (bare : node.kind ≠ "parenthesized_expression") :
    node.unwrapped = node := by
  rw [unwrapped, if_neg (by simpa using bare)]

/-- Parentheses around one expression are looked through. -/
theorem unwrapped_of_single {node child : Node}
    (wrapped : node.kind = "parenthesized_expression")
    (single : node.significantChildren = [child]) : node.unwrapped = child.unwrapped := by
  rw [unwrapped, if_pos (by simpa using wrapped)]
  split
  case h_1 inner alone => rw [List.singleton_inj.mp (single.symm.trans alone)]
  case h_2 other => exact absurd single (other child)

/-- Parentheses around anything else are not looked through. -/
theorem unwrapped_of_not_single {node : Node}
    (several : ∀ child, node.significantChildren ≠ [child]) : node.unwrapped = node := by
  rw [unwrapped]
  split
  · split
    case h_1 inner alone => exact absurd alone (several inner)
    case h_2 => rfl
  · rfl

/-! ## Framework names and wrapper calls -/

/-- A bare framework name, or one qualified by a framework namespace. -/
def refersTo (conventions : Conventions) (names : List String) (node : Node) : Bool :=
  if node.kind == "identifier" then names.contains node.text
  else if node.kind == "member_expression" then
    match node.child? "object" with
    | some object =>
      object.kind == "identifier" && conventions.frameworkNamespaces.contains object.text &&
        names.contains (((node.child? "property").map text).getD "")
    | none => false
  else false

/-- A call whose callee, parentheses aside, names a wrapper. -/
def isForwardingCall (conventions : Conventions) (node : Node) : Bool :=
  node.kind == "call_expression" &&
    match node.child? "function" with
    | some callee => callee.unwrapped.refersTo conventions conventions.refForwardingWrappers
    | none => false

/-- The first argument of a call, comments not counted. -/
def firstArgument? (call : Node) : Option Node :=
  (call.child? "arguments").bind (·.significantChildren.head?)

/-! ## Classes -/

/-- A part of a class heritage that tells the superclass. -/
def tellsSuperclass (part : Node) : Bool :=
  part.kind ∈ ["extends_clause", "identifier", "member_expression"]

/-- The expression after `extends`. It is the value of an extends clause, or stands
directly in the heritage. -/
def superclass? (node : Node) : Option Node :=
  let parts := (node.children.filter (·.kind == "class_heritage")).flatMap namedChildren
  (parts.find? tellsSuperclass).bind fun part =>
    if part.kind == "extends_clause" then (part.child? "value").or part.namedChildren.head?
    else some part

/-! ## Markup -/

/-- The name of a tag: of a member chain its rightmost segment. Namespaced tags and
fragments have none. -/
def tagName? (node : Node) : Option String :=
  if node.kind ∈ ["identifier", "property_identifier", "jsx_identifier"] then some node.text
  else if node.kind == "member_expression" then
    match _found : node.child? "property" with
    | some property => property.tagName?
    | none => none
  else if node.kind == "nested_identifier" then
    match _found : node.namedChildren.getLast? with
    | some segment => segment.tagName?
    | none => none
  else none
termination_by node.size
decreasing_by
  · exact size_lt_of_child _found
  · exact size_lt_of_named (List.mem_of_getLast? _found)

/-- Some strict descendant is markup. -/
def containsMarkup (node : Node) : Bool := node.descendants.any isMarkup

end ComponentAtlas.Syntax.Node
