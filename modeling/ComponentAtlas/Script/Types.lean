import ComponentAtlas.Script.Binding

/-!
# Types

Type syntax from names and literals up to conditional types. A type that ends a statement
stops at a line end unless the next line goes on with it.
-/

namespace ComponentAtlas.Script.Types

open Reader Syntax Phrase Binding

/-! ## Names and literals -/

/-- The types that the language names itself. -/
def predefinedNames : List String :=
  ["any", "number", "boolean", "string", "symbol", "void", "unknown", "never", "object"]

/-- The words that start a type of their own and name none. -/
def typeWords : List String :=
  ["typeof", "keyof", "new", "infer", "true", "false", "null", "undefined", "this", "import"]

/-- The arguments of a type whose name was read, if any. -/
def applied (g : Grammar) (place : Place) (name : Node) : Reader Node := do
  match ← option? (goesOn place *> typeArguments g) with
  | some types => return Node.branch "generic_type" [name.inField "name", types]
  | none => return name

/-- A type by its name, perhaps qualified and applied to others. -/
def named (g : Grammar) (place : Place) : Reader Node := do
  let first ← word
  require !(typeWords.contains first)
  if first == "unique" && (← option? (keyword "symbol")).isSome then
    return Node.branch "predefined_type" []
  let members ← many (symbol "." *> word)
  if members.isEmpty then
    if predefinedNames.contains first then return Node.leaf "predefined_type" first
    applied g place (Node.leaf "type_identifier" first)
  else
    let text := ".".intercalate (first :: members)
    applied g place (Node.leaf "nested_type_identifier" text)

/-- A literal as a type. -/
def literal : Reader Node := do
  let value ← firstOf [
    Literal.text, Literal.number,
    (symbol "-" <|> symbol "+") *> Literal.number,
    do return Node.leaf "word" (← keywordOf ["true", "false", "null", "undefined"])]
  return Node.branch "literal_type" [value]

/-- A text with types inside. -/
def template (g : Grammar) : Reader Node := do
  symbol "`"
  let parts ← many (firstOf [
    do exactly "$\x7b"; let inner ← g.type .inside; symbol "\x7d"; return [inner],
    run1 (fun c => c != '`' && c != '$' && c != '\\') *> pure [],
    exactly "\\" *> exactCount (fun _ => true) 1 *> pure [],
    exactly "$" *> pure []])
  exactly "`"
  return Node.branch "template_literal_type" parts.flatten

/-! ## Types of values and of keys -/

/-- A step from a value to a part of it, inside a type query. -/
def queryStep (g : Grammar) (place : Place) : Reader (List Node) := do
  goesOn place
  firstOf [
    do (symbol "." <|> symbol "?."); return [← memberName],
    do
      let index ← between "[" "]"
        (firstOf [Literal.text, Literal.number, Node.leaf "predefined_type" <$>
          keywordOf predefinedNames])
      return [index],
    do return [← arguments g],
    do return [← typeArguments g]]

/-- The type of a value. -/
def query (g : Grammar) (place : Place) : Reader Node := do
  keyword "typeof"
  let first ← word
  let steps ← many (queryStep g place)
  return Node.branch "type_query" (Node.leaf "identifier" first :: steps.flatten)

/-- A type of another module. -/
def imported (g : Grammar) (place : Place) : Reader Node := do
  keyword "import"
  let args ← arguments g
  let steps ← many (queryStep g place)
  return Node.branch "type_query" (Node.leaf "import" "import" :: args :: steps.flatten)

/-- The keys of a type. -/
def keys (g : Grammar) (place : Place) : Reader Node := do
  keyword "keyof"
  return Node.branch "index_type_query" [← g.type place]

/-! ## Tuples -/

/-- A member of a tuple: a type, perhaps named, optional or standing for many. -/
def tupleMember (g : Grammar) : Reader Node :=
  firstOf [
    do
      let many? ← option? (symbol "...")
      let name ← identifier
      let optionalMark ← option? (symbol "?")
      require (many?.isNone || optionalMark.isNone)
      let type ← ascription g .inside
      let kind := if optionalMark.isSome then "optional_parameter" else "required_parameter"
      return Node.branch kind [name.inField "name", type],
    do symbol "..."; return Node.branch "rest_type" [← g.type .inside],
    do
      let type ← g.type .inside
      match ← option? (symbol "?") with
      | some _ => return Node.branch "optional_type" [type]
      | none => return type]

/-- A tuple type. -/
def tuple (g : Grammar) : Reader Node := do
  let members ← between "[" "]" (option? (commaList (tupleMember g)))
  return Node.branch "tuple_type" (members.getD [])

/-! ## Object types -/

/-- The words that may stand before the name of a member. -/
def memberModifiers : List String :=
  ["declare", "public", "private", "protected", "static", "override", "readonly", "abstract",
   "async", "accessor", "get", "set"]

/-- A character that starts the name of a member. -/
def startsMember (c : Char) : Bool := continuesName c || "\\\"'[#*".toList.contains c

/-- A word is a modifier only before the name of a member, on the same line unless the
place lets nothing end there. -/
def memberModifier (place : Place) : Reader Unit := do
  let _ ← keywordOf memberModifiers
  goesOn place
  let next ← peek?
  require ((next.map startsMember).getD false)

/-- The modifiers of a member, and the star of a generator. -/
def modifiers (place : Place) : Reader Unit := do
  let _ ← many (memberModifier place)
  let _ ← option? (symbol "*")

/-- What stands in the brackets of an index signature: a named key, or a mapped key. -/
def indexKey (g : Grammar) : Reader (List Node) := do
  let name ← word
  (do
    symbol ":"
    return [(Node.leaf "identifier" name).inField "name", ← g.type .inside]) <|> (do
    keyword "in"
    let range ← g.type .inside
    let renamed ← option? (keyword "as" *> g.type .inside)
    return [Node.branch "mapped_type_clause"
      ((Node.leaf "type_identifier" name).inField "name" :: range :: renamed.toList)])

/-- The marks before the type of an index signature. -/
def indexColon : Reader Unit :=
  firstOf [symbol "-?:", symbol "+?:", symbol "?:", symbol ":"]

/-- An index signature. -/
def indexSignature (g : Grammar) : Reader Node := do
  let _ ← option? ((option? (symbol "-" <|> symbol "+")) *> keyword "readonly")
  let key ← between "[" "]" (indexKey g)
  indexColon
  let type ← g.type (Place.ending.forType)
  return Node.branch "index_signature" (key ++ [type])

/-- A signature of construction. -/
def constructSignature (g : Grammar) : Reader Node := do
  let _ ← option? (keyword "abstract")
  keyword "new"
  return Node.branch "construct_signature" (← signature g .ending)

/-- A property or method signature. -/
def memberSignature (g : Grammar) : Reader Node := do
  modifiers .ending
  let name ← propertyName g
  let _ ← option? (symbol "?")
  match ← option? (signature g .ending) with
  | some parts => return Node.branch "method_signature" (name.inField "name" :: parts)
  | none =>
    let type ← option? (ascription g .ending)
    return Node.branch "property_signature" (name.inField "name" :: type.toList)

/-- A member of an object type. -/
def objectMember (g : Grammar) : Reader Node :=
  firstOf [
    constructSignature g,
    indexSignature g,
    do return Node.branch "call_signature" (← signature g .ending),
    memberSignature g]

/-- The end of a member. -/
def memberEnd : Reader Unit := symbol "," <|> semicolon true

/-- The members of an object type or an interface. -/
def objectBody (g : Grammar) : Reader (List Node) := do
  let exact ← (symbol "\x7b|" *> pure true) <|> (symbol "\x7b" *> pure false)
  let _ ← option? (symbol "," <|> symbol ";")
  let members ← many (objectMember g <* (if exact then memberEnd <|> ahead (symbol "|\x7d")
    else memberEnd))
  if exact then symbol "|\x7d" else symbol "\x7d"
  return members

/-- An object type. -/
def object (g : Grammar) : Reader Node := do
  return Node.branch "object_type" (← objectBody g)

/-! ## Functions -/

/-- The type of a function. -/
def function (g : Grammar) (place : Place) : Reader Node := do
  let types ← option? (typeParameters g)
  let params ← parameters g
  symbol "=>"
  let result ← returned g place
  return Node.branch "function_type" (types.toList ++ [params, result.inField "return_type"])

/-- The type of a constructor. -/
def constructor (g : Grammar) (place : Place) : Reader Node := do
  let _ ← option? (keyword "abstract")
  keyword "new"
  let types ← option? (typeParameters g)
  let params ← parameters g
  symbol "=>"
  return Node.branch "constructor_type"
    (types.toList ++ [params, (← g.type place).inField "type"])

/-! ## All types -/

/-- A type that is one piece. -/
def primary (g : Grammar) (place : Place) : Reader Node :=
  firstOf [
    do return Node.branch "parenthesized_type" [← between "(" ")" (g.type .inside)],
    tuple g,
    object g,
    literal,
    template g,
    symbol "*" *> pure (Node.leaf "existential_type" "*"),
    do symbol "?"; return Node.branch "flow_maybe_type" [← g.type place],
    do keyword "this"; return Node.leaf "this_type" "this",
    query g place,
    imported g place,
    keys g place,
    named g place]

/-- What an opening bracket after a type makes of it: an array, or a part of the type. -/
def indexed (g : Grammar) (place : Place) : Reader (Option Node) := do
  goesOn place
  between "[" "]" (option? (g.type .inside))

/-- A type with the brackets after it. -/
def suffixed (g : Grammar) (place : Place) : Reader Node := do
  let first ← primary g place
  let indices ← many (indexed g place)
  return indices.foldl (fun type index =>
    match index with
    | some index => Node.branch "lookup_type" [type, index]
    | none => Node.branch "array_type" [type]) first

/-- A type variable that a condition binds. -/
def inferred (g : Grammar) (place : Place) : Reader Node := do
  keyword "infer"
  let name ← typeIdentifier
  let limit ← option? (goesOn place *> keyword "extends" *> g.type place)
  return Node.branch "infer_type" (name :: limit.toList)

/-- A type that no other type is joined to. -/
def single (g : Grammar) (place : Place) : Reader Node :=
  firstOf [
    function g place,
    constructor g place,
    do keyword "readonly"; return Node.branch "readonly_type" [← g.type place],
    inferred g place,
    suffixed g place]

/-- A sign that joins two types, and the kind of the joined type. -/
def joining : Reader String :=
  (symbol "|" *> refuse (exactly "\x7d") *> pure "union_type") <|>
    (symbol "&" *> pure "intersection_type")

/-- Types joined to unions and intersections. -/
def joined (g : Grammar) (place : Place) : Reader Node := do
  let leading ← option? joining
  let first ← single g place
  let first := match leading with
    | some kind => Node.branch kind [first]
    | none => first
  let rest ← many (do
    goesOn place
    let kind ← joining
    return (kind, ← single g place))
  return rest.foldl (fun left (kind, right) => Node.branch kind [left, right]) first

/-- The condition after a type. -/
def condition (g : Grammar) (place : Place) : Reader (List Node) := do
  goesOn place
  keyword "extends"
  let right ← g.type .inside
  symbol "?"
  let consequence ← g.type .inside
  symbol ":"
  let alternative ← g.type place
  return [right, consequence, alternative]

/-- A type. -/
def type (g : Grammar) (place : Place) : Reader Node := do
  let left ← joined g place
  match ← option? (condition g place) with
  | some parts => return Node.branch "conditional_type" (left :: parts)
  | none => return left

end ComponentAtlas.Script.Types
