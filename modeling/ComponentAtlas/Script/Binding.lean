import ComponentAtlas.Script.Phrase

/-!
# Bindings

Patterns that take values apart, the parameters of functions, and the parameters of types.
-/

namespace ComponentAtlas.Script.Binding

open Reader Syntax Phrase

/-! ## Patterns -/

/-- A pattern with the value that it takes when there is none. -/
def withDefault (g : Grammar) : Reader Node := do
  let pattern ← g.pattern
  match ← option? (symbol "=" *> g.expression .inside) with
  | some value =>
    return Node.branch "assignment_pattern" [pattern.inField "left", value.inField "right"]
  | none => return pattern

/-- The pattern for all that is left. -/
def restPattern (g : Grammar) : Reader Node := do
  symbol "..."
  return Node.branch "rest_pattern" [← g.pattern]

/-- A property that is bound to a pattern. -/
def pairPattern (g : Grammar) : Reader Node := do
  let key ← propertyName g
  symbol ":"
  let value ← withDefault g
  return Node.branch "pair_pattern" [key.inField "key", value.inField "value"]

/-- A property that is bound under its own name. -/
def shorthandPattern (g : Grammar) : Reader Node := do
  let name := Node.leaf "shorthand_property_identifier_pattern" (← word)
  match ← option? (symbol "=" *> g.expression .inside) with
  | some value =>
    return Node.branch "object_assignment_pattern" [name.inField "left", value.inField "right"]
  | none => return name

/-- Properties in braces, each bound. -/
def objectPattern (g : Grammar) : Reader Node := do
  let parts ← between "\x7b" "\x7d"
    (looseList (firstOf [restPattern g, pairPattern g, shorthandPattern g]))
  return Node.branch "object_pattern" parts

/-- Items in brackets, each bound. -/
def arrayPattern (g : Grammar) : Reader Node := do
  let parts ← between "[" "]" (looseList (withDefault g))
  return Node.branch "array_pattern" parts

/-- A pattern that takes a value apart. -/
def destructuring (g : Grammar) : Reader Node := objectPattern g <|> arrayPattern g

/-- The kinds of expressions that can be assigned to. -/
def assignableKinds : List String :=
  ["identifier", "undefined", "member_expression", "subscript_expression",
   "non_null_expression"]

/-- An expression that starts with a word and can be assigned to. -/
def assignable (g : Grammar) : Reader Node := do
  let _ ← ahead word
  let target ← g.access .inside
  require (assignableKinds.contains target.kind)
  return target

/-- A name that no member access follows. -/
def simpleName : Reader Node := do
  let name ← plainIdentifier
  let next ← peek?
  require !((next.map ".[(!<".toList.contains).getD false)
  return name

/-- A pattern that binds names. -/
def bindingPattern (g : Grammar) : Reader Node :=
  firstOf [restPattern g, destructuring g, simpleName]

/-- A pattern that binds names or assigns to what exists. -/
def pattern (g : Grammar) : Reader Node := bindingPattern g <|> assignable g

/-! ## Parameters of functions -/

/-- The words that may stand before a parameter. -/
def parameterModifiers : List String := ["public", "private", "protected", "override", "readonly"]

/-- A modifier is one only before another part of the parameter. -/
def parameterModifier : Reader Unit := do
  let _ ← keywordOf parameterModifiers
  let next ← peek?
  require ((next.map fun c => startsName c || "\x7b[.".toList.contains c).getD false)

/-- A parameter. -/
def parameter (g : Grammar) : Reader Node := do
  let decorators ← many (decorator g)
  let _ ← many parameterModifier
  let target ← (do keyword "this"; return Node.leaf "this" "this") <|> bindingPattern g
  let optionalMark ← option? (symbol "?")
  let type ← option? (ascription g .inside)
  let value ← option? (initializer g .inside)
  let kind := if optionalMark.isSome then "optional_parameter" else "required_parameter"
  return Node.branch kind (decorators ++ [target.inField "pattern"] ++ type.toList ++ value.toList)

/-- The parameters of a function. -/
def parameters (g : Grammar) : Reader Node := do
  let items ← between "(" ")" (option? (commaList (parameter g)))
  return (Node.branch "formal_parameters" (items.getD [])).inField "parameters"

/-! ## Parameters of types -/

/-- A bound of a type parameter. -/
def bound (g : Grammar) : Reader Node := do
  keyword "extends" <|> symbol ":"
  return (Node.branch "constraint" [← g.type .inside]).inField "constraint"

/-- A parameter of a type. -/
def typeParameter (g : Grammar) : Reader Node := do
  let _ ← option? (keyword "const" *> ahead word)
  let name ← typeIdentifier
  let limit ← option? (bound g)
  let fallback ← option? (symbol "=" *> g.type .inside)
  let fallback := fallback.map fun type => (Node.branch "default_type" [type]).inField "value"
  return Node.branch "type_parameter" (name.inField "name" :: limit.toList ++ fallback.toList)

/-- The parameters of a type. -/
def typeParameters (g : Grammar) : Reader Node := do
  let items ← between "<" ">" (commaList (typeParameter g))
  return (Node.branch "type_parameters" items).inField "type_parameters"

/-! ## Signatures -/

/-- The name that a type predicate is about. -/
def predicateSubject : Reader Node := do
  let name ← word
  return (if name == "this" then Node.leaf "this" name else Node.leaf "identifier" name)

/-- A statement that a name has a type. -/
def predicate (g : Grammar) (place : Place) : Reader Node := do
  let name ← predicateSubject
  goesOn place
  keyword "is"
  return Node.branch "type_predicate" [name.inField "name", (← g.type place).inField "type"]

/-- A statement that holds after a call. -/
def assertion (g : Grammar) (place : Place) : Reader Node := do
  keyword "asserts"
  return Node.branch "asserts" [← predicate g place <|> predicateSubject]

/-- What a function returns: a type, or a statement about its arguments. A word after
which `is` or a name follows belongs to such a statement. -/
def returned (g : Grammar) (place : Place) : Reader Node :=
  firstOf [assertion g place, predicate g place, g.type place]

/-- A return type after a colon. -/
def returnType (g : Grammar) (place : Place) : Reader Node := do
  symbol ":"
  let result ← returned g place.forType
  return (Node.branch "type_annotation" [result]).inField "return_type"

/-- The parameters and the return type of a function. -/
def signature (g : Grammar) (place : Place) : Reader (List Node) := do
  let types ← option? (typeParameters g)
  let params ← parameters g
  let result ← option? (returnType g place)
  return types.toList ++ [params] ++ result.toList

end ComponentAtlas.Script.Binding
