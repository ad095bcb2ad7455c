import ComponentAtlas.Script.Grammar

/-!
# Phrases

The small forms that several parts of the grammar share: names, property names, argument
lists, type arguments, decorators, initial values and type annotations.
-/

namespace ComponentAtlas.Script.Phrase

open Reader Syntax

/-! ## Names -/

/-- Any word as a name. -/
def identifier : Reader Node := do return Node.leaf "identifier" (← word)

/-- Any word as the name of a type. -/
def typeIdentifier : Reader Node := do return Node.leaf "type_identifier" (← word)

/-- The words that start an expression of their own and are no names there. -/
def expressionWords : List String :=
  ["new", "function", "class", "typeof", "void", "delete", "await", "yield", "this", "super",
   "true", "false", "null", "import"]

/-- A name where an expression may stand. -/
def plainIdentifier : Reader Node := do
  let name ← word
  require !(expressionWords.contains name)
  return if name == "undefined" then Node.leaf "undefined" name else Node.leaf "identifier" name

/-- The name of a member that is private to its class. -/
def privateIdentifier : Reader Node := do
  return Node.leaf "private_property_identifier" (← privateName)

/-- The name of a member after a point. -/
def memberName : Reader Node :=
  (do return Node.leaf "property_identifier" (← word)) <|> privateIdentifier

/-- An expression in square brackets that names a property. -/
def computedName (g : Grammar) : Reader Node := do
  let inner ← between "[" "]" (g.expression .inside)
  return Node.branch "computed_property_name" [inner]

/-- The name of a property. -/
def propertyName (g : Grammar) : Reader Node :=
  firstOf [memberName, Literal.text, Literal.number, computedName g]

/-! ## Lists -/

/-- An item that stands for many. -/
def spread (g : Grammar) : Reader Node := do
  symbol "..."
  return Node.branch "spread_element" [← g.expression .inside]

/-- The arguments of a call. -/
def arguments (g : Grammar) : Reader Node := do
  let items ← between "(" ")" (looseList (spread g <|> g.expression .inside))
  return Node.branch "arguments" items

/-- Expressions with commas between them. One alone stands for itself. -/
def expressions (g : Grammar) (place : Place) : Reader Node := do
  match ← separated (symbol ",") (g.expression place) with
  | [only] => return only
  | several => return Node.branch "sequence_expression" several

/-- Types in angle brackets. -/
def typeArguments (g : Grammar) : Reader Node := do
  let types ← between "<" ">" (commaList (g.type .inside))
  return (Node.branch "type_arguments" types).inField "type_arguments"

/-! ## Annotations and initial values -/

/-- A type after a colon. -/
def ascription (g : Grammar) (place : Place) : Reader Node := do
  symbol ":"
  return (Node.branch "type_annotation" [← g.type place.forType]).inField "type"

/-- An initial value. -/
def initializer (g : Grammar) (place : Place) : Reader Node := do
  symbol "="
  return (← g.expression place).inField "value"

/-! ## Decorators -/

/-- A name followed by members. -/
def dottedName : Reader Node := do
  let first ← identifier
  let members ← many (symbol "." *> memberName)
  return members.foldl (fun object member =>
    Node.branch "member_expression" [object.inField "object", member.inField "property"]) first

/-- What a decorator applies: a name, perhaps called. -/
def decoratorCall (g : Grammar) : Reader Node := do
  let callee ← dottedName
  let types ← option? (typeArguments g)
  match ← option? (arguments g) with
  | some args =>
    return Node.branch "call_expression"
      (callee.inField "function" :: types.toList ++ [args.inField "arguments"])
  | none =>
    require types.isNone
    return callee

/-- A decorator. -/
def decorator (g : Grammar) : Reader Node := do
  symbol "@"
  let applied ← decoratorCall g <|> (do
    return Node.branch "parenthesized_expression" [← between "(" ")" (decoratorCall g)])
  return (Node.branch "decorator" [applied]).inField "decorator"

end ComponentAtlas.Script.Phrase
