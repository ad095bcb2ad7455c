import ComponentAtlas.Script.Types

/-!
# Functions, classes and objects

The forms that hold members or bodies: functions, the members of classes and of object
literals. They occur both as expressions and as declarations.
-/

namespace ComponentAtlas.Script.Members

open Reader Syntax Phrase Binding ComponentAtlas.Script.Types

/-! ## Bodies -/

/-- Statements in braces. -/
def block (g : Grammar) : Reader Node := do
  return Node.branch "statement_block" (← between "\x7b" "\x7d" (many g.statement))

/-- A block as the body of a function. -/
def body (g : Grammar) : Reader Node := do return (← block g).inField "body"

/-! ## Functions -/

/-- What tells kinds of functions apart. -/
structure FunctionHead where
  generator : Bool
  name : Option Node

/-- The head of a function from its keyword up to its name. -/
def functionHead : Reader FunctionHead := do
  let _ ← option? (keyword "async" *> do require !(← lineEnded))
  keyword "function"
  let star ← option? (symbol "*")
  let name ← option? identifier
  return ⟨star.isSome, name.map (·.inField "name")⟩

/-- A function as an expression. -/
def functionExpression (g : Grammar) : Reader Node := do
  let head ← functionHead
  let parts ← signature g .inside
  let kind := if head.generator then "generator_function" else "function_expression"
  return Node.branch kind (head.name.toList ++ parts ++ [← body g])

/-- A function as a declaration. Without a body it is a signature and ends as a statement
does. -/
def functionDeclaration (g : Grammar) : Reader Node := do
  let head ← functionHead
  require head.name.isSome
  let parts ← signature g .ending
  match ← option? (body g) with
  | some inner =>
    let kind :=
      if head.generator then "generator_function_declaration" else "function_declaration"
    return Node.branch kind (head.name.toList ++ parts ++ [inner])
  | none =>
    semicolon true
    return Node.branch "function_signature" (head.name.toList ++ parts)

/-! ## Members of objects -/

/-- A method with its body. -/
def method (g : Grammar) (place : Place) : Reader Node := do
  modifiers place
  let name ← propertyName g
  let _ ← option? (symbol "?")
  let parts ← signature g place
  return Node.branch "method_definition" (name.inField "name" :: parts ++ [← body g])

/-- A property with its value. -/
def pair (g : Grammar) : Reader Node := do
  let key ← propertyName g
  symbol ":"
  let value ← g.expression .inside
  return Node.branch "pair" [key.inField "key", value.inField "value"]

/-- A member of an object literal. -/
def objectMember (g : Grammar) : Reader Node :=
  firstOf [
    spread g,
    method g .inside,
    pair g,
    do return Node.leaf "shorthand_property_identifier" (← word)]

/-- An object literal. -/
def object (g : Grammar) : Reader Node := do
  return Node.branch "object" (← between "\x7b" "\x7d" (looseList (objectMember g)))

/-! ## Members of classes -/

/-- A block that runs when its class is made. -/
def staticBlock (g : Grammar) : Reader Node := do
  keyword "static"
  return Node.branch "class_static_block" [← body g]

/-- A method without a body. -/
def methodSignature (g : Grammar) : Reader Node := do
  modifiers .ending
  let name ← propertyName g
  let _ ← option? (symbol "?")
  let parts ← signature g .ending
  memberEnd
  return Node.branch "method_signature" (name.inField "name" :: parts)

/-- A field, perhaps with a type and a value. -/
def field (g : Grammar) : Reader Node := do
  modifiers .ending
  let name ← propertyName g
  let _ ← option? (symbol "?" <|> symbol "!")
  let type ← option? (ascription g .ending)
  let value ← option? (initializer g .ending)
  symbol "," <|> semicolon value.isNone
  return Node.branch "public_field_definition"
    (name.inField "name" :: type.toList ++ value.toList)

/-- One piece of a class body. -/
def classMember (g : Grammar) : Reader (List Node) :=
  firstOf [
    symbol ";" *> pure [],
    do return [← decorator g],
    do return [← staticBlock g],
    do return [← method g .ending],
    do return [← methodSignature g],
    do
      let found ← indexSignature g
      memberEnd
      return [found],
    do return [← field g]]

/-- The body of a class. -/
def classBody (g : Grammar) : Reader Node := do
  let members ← between "\x7b" "\x7d" (many (classMember g))
  return (Node.branch "class_body" members.flatten).inField "body"

/-! ## Classes -/

/-- A superclass and its type arguments. -/
def superclass (g : Grammar) : Reader (List Node) := do
  let value ← g.expression { Place.inside with heritage := true }
  let types ← option? (typeArguments g)
  return value.inField "value" :: types.toList

/-- The superclasses of a class. -/
def extendsClause (g : Grammar) : Reader Node := do
  keyword "extends"
  let parts ← separated (symbol ",") (superclass g)
  return Node.branch "extends_clause" parts.flatten

/-- The interfaces of a class. -/
def implementsClause (g : Grammar) : Reader Node := do
  keyword "implements"
  return Node.branch "implements_clause" (← separated (symbol ",") (g.type .inside))

/-- What a class builds on. -/
def classHeritage (g : Grammar) : Reader (List Node) := do
  let first ← option? (extendsClause g)
  let second ← option? (implementsClause g)
  let parts := first.toList ++ second.toList
  return if parts.isEmpty then [] else [Node.branch "class_heritage" parts]

/-- The name of a class. -/
def className : Reader Node := do
  let name ← word
  require !(["extends", "implements"].contains name)
  return (Node.leaf "type_identifier" name).inField "name"

/-- A class from its keyword on. -/
def classParts (g : Grammar) : Reader (Bool × List Node) := do
  keyword "class"
  let name ← option? className
  let types ← option? (typeParameters g)
  let heritage ← classHeritage g
  let inner ← classBody g
  return (name.isSome, name.toList ++ types.toList ++ heritage ++ [inner])

/-- A class as an expression. -/
def classExpression (g : Grammar) : Reader Node := do
  let decorators ← many (decorator g)
  let (_, parts) ← classParts g
  return Node.branch "class" (decorators ++ parts)

/-- A class as a declaration, which has a name. -/
def classDeclaration (g : Grammar) : Reader Node := do
  let decorators ← many (decorator g)
  let isAbstract ← option? (keyword "abstract")
  let (isNamed, parts) ← classParts g
  require isNamed
  let kind := if isAbstract.isSome then "abstract_class_declaration" else "class_declaration"
  return Node.branch kind (decorators ++ parts)

end ComponentAtlas.Script.Members
