import ComponentAtlas.Script.Members
import ComponentAtlas.Script.Operator

/-!
# Expressions

An expression is a row of operands with infix operators, perhaps with a choice after it. An
operand is a primary expression with accesses and calls after it, with prefix operators or
an assignment around it, or an arrow function.
-/

namespace ComponentAtlas.Script.Expression

open Reader Syntax Phrase Binding

/-! ## Primary expressions -/

/-- A text with expressions inside. -/
def template (g : Grammar) : Reader Node := do
  symbol "`"
  let parts ← many (firstOf [
    do
      exactly "$\x7b"
      let inner ← expressions g .inside
      symbol "\x7d"
      return [Node.branch "template_substitution" [inner]],
    run1 (fun c => c != '`' && c != '$' && c != '\\') *> pure [],
    exactly "\\" *> Literal.escapeBody *> pure [],
    exactly "$" *> pure []])
  exactly "`"
  return Node.branch "template_string" parts.flatten

/-- Expressions in parentheses, of which a single one may be followed by a type. -/
def parenthesized (g : Grammar) : Reader Node := do
  let parts ← between "(" ")" (do
    let inner ← expressions g .inside
    let type ← option? (ascription g .inside)
    return inner :: type.toList)
  return Node.branch "parenthesized_expression" parts

/-- A list. -/
def array (g : Grammar) : Reader Node := do
  return Node.branch "array"
    (← between "[" "]" (looseList (spread g <|> g.expression .inside)))

/-- A word that is an expression of its own. -/
def constant : Reader Node := do
  let text ← keywordOf ["this", "super", "true", "false", "null"]
  return Node.leaf text text

/-- A property of the running program. -/
def metaProperty : Reader Node := do
  (keyword "import" *> symbol "." *> keyword "meta") <|>
    (keyword "new" *> symbol "." *> keyword "target")
  return Node.branch "meta_property" []

/-- The word that loads a module when it is called. -/
def importCall : Reader Node := do
  keyword "import"
  let _ ← ahead (symbol "(" <|> symbol ".")
  return Node.leaf "import" "import"

/-- A private name, whose presence in an object is tested. -/
def privateTest : Reader Node := do
  let name ← privateIdentifier
  let _ ← ahead (keyword "in")
  return name

/-! ## Accesses and calls -/

/-- An expression made from one that was read before. -/
abbrev Step := Node → Node

/-- The sign of an access that may find nothing. Before a digit it starts a choice instead. -/
def chainSign : Reader Unit := symbol "?." *> refuse (exactCount Char.isDigit 1)

/-- An access to a member by its name. -/
def memberStep : Reader Step := do
  chainSign <|> symbol "."
  let property ← memberName
  return fun object =>
    Node.branch "member_expression" [object.inField "object", property.inField "property"]

/-- An access to a member by an expression. -/
def subscriptStep (g : Grammar) : Reader Step := do
  let _ ← option? chainSign
  let index ← between "[" "]" (expressions g .inside)
  return fun object =>
    Node.branch "subscript_expression" [object.inField "object", index.inField "index"]

/-- The assertion that a value is there. -/
def nonNullStep : Reader Step := do
  symbol "!" *> refuse (exactly "=")
  return fun value => Node.branch "non_null_expression" [value]

/-- A template after an expression. -/
def templateStep (g : Grammar) : Reader Step := do
  let text ← template g
  return fun callee =>
    Node.branch "call_expression" [callee.inField "function", text.inField "arguments"]

/-- The steps that may also occur in the callee of a construction. -/
def accessStep (g : Grammar) : Reader Step :=
  firstOf [memberStep, subscriptStep g, templateStep g, nonNullStep]

/-- A call, perhaps applied to types. -/
def callStep (g : Grammar) : Reader Step := do
  let _ ← option? chainSign
  let types ← option? (typeArguments g)
  let args ← arguments g
  return fun callee => Node.branch "call_expression"
    (callee.inField "function" :: types.toList ++ [args.inField "arguments"])

/-- The characters that may follow an expression that was applied to types. -/
def instantiationEnds (place : Place) : List Char :=
  if place.heritage then ".?".toList else ")],;:?.|&^*%\x7d".toList

/-- What may follow an expression that was applied to types and not called. Anything else
shows that the angle brackets were comparisons. -/
def endsInstantiation (place : Place) : Reader Unit := do
  let next ← peek?
  let ended ← endsHere false
  if (!place.heritage && ended) ||
      (next.map (instantiationEnds place).contains).getD false then
    return
  firstOf [symbol "==", symbol "!=",
    keywordOf ["as", "satisfies", "in", "instanceof", "of"] *> pure ()]

/-- An application to types. -/
def instantiationStep (g : Grammar) (place : Place) : Reader Step := do
  let types ← typeArguments g
  ahead (endsInstantiation place)
  return fun callee => Node.branch "instantiation_expression" [callee.inField "function", types]

/-- A count up or down after an expression. -/
def updateStep : Reader Step := do
  symbol "++" <|> symbol "--"
  return fun target => Node.branch "update_expression" [target.inField "argument"]

/-- One step after an expression. -/
def step (g : Grammar) (place : Place) : Reader Step := do
  goesOn place
  firstOf [accessStep g, callStep g, instantiationStep g place, updateStep]

/-! ## Constructions -/

/-- A primary expression that is no construction. -/
def simple (g : Grammar) : Reader Node :=
  firstOf [
    constant,
    Members.functionExpression g,
    Members.classExpression g,
    metaProperty,
    importCall,
    plainIdentifier,
    parenthesized g,
    array g,
    Members.object g,
    template g,
    Literal.text,
    Literal.number,
    Literal.regex,
    privateTest,
    (do require (g.dialect == .markup); g.element)]

/-- A construction: a callee without calls, and perhaps types and arguments. -/
def construction (g : Grammar) (place : Place) : Reader Node := do
  keyword "new"
  let first ← (ahead (keyword "new") *> g.access place) <|> simple g
  let steps ← many (goesOn place *> accessStep g)
  let callee := steps.foldl (fun object step => step object) first
  let types ← option? (goesOn place *> typeArguments g <*
    ahead (symbol "(" <|> endsInstantiation place))
  let args ← option? (goesOn place *> arguments g)
  return Node.branch "new_expression" (callee.inField "constructor" :: types.toList ++
    (args.map (·.inField "arguments")).toList)

/-- An expression with what is accessed or called after it. -/
def accessOf (g : Grammar) (place : Place) (primary : Reader Node) : Reader Node := do
  let first ← primary
  let steps ← many (step g place)
  return steps.foldl (fun object step => step object) first

/-- A primary expression with what is accessed or called after it. -/
def access (g : Grammar) (place : Place) : Reader Node :=
  accessOf g place (firstOf [metaProperty, construction g place, simple g])

/-! ## Assignments -/

/-- The signs of assignments that also compute. -/
def computingSigns : List String :=
  ["+=", "-=", "*=", "/=", "%=", "^=", "&=", "|=", ">>=", ">>>=", "<<=", "**=", "&&=", "||=",
   "??="]

/-- The plain sign of an assignment. -/
def assignmentSign : Reader Unit := symbol "=" *> refuse (exactly "=" <|> exactly ">")

/-- The kind of an assignment, read from its sign. -/
def assignmentKind : Reader String :=
  (assignmentSign *> pure "assignment_expression") <|>
    (firstOf (computingSigns.map symbol) *> pure "augmented_assignment_expression")

/-- The rest of an assignment to a target. -/
def assignTo (g : Grammar) (place : Place) (target : Node) (kind : String) : Reader Node := do
  let right ← g.expression place
  return Node.branch kind [target.inField "left", right.inField "right"]

/-- An access that was read by itself, or an assignment to it. -/
def assignmentFrom (g : Grammar) (place : Place) (target : Reader Node) : Reader Node := do
  let target ← target
  if ["object", "array"].contains target.kind then
    refuse assignmentSign
    return target
  if !(("parenthesized_expression" :: assignableKinds).contains target.kind) then
    return target
  match ← option? (goesOn place *> assignmentKind) with
  | some kind => assignTo g place target kind
  | none => return target

/-- An assignment that takes a value apart. -/
def destructuringAssignment (g : Grammar) (place : Place) : Reader Node := do
  let target ← destructuring g
  assignmentSign
  assignTo g place target "assignment_expression"

/-- An access, or an assignment to it. A list or an object before the sign of an assignment
is a pattern. -/
def assignment (g : Grammar) (place : Place) : Reader Node :=
  assignmentFrom g place (g.access place) <|> destructuringAssignment g place

/-! ## Arrow functions -/

/-- A single parameter without parentheses. -/
def loneParameter : Reader (List Node) := do
  return [(← plainIdentifier).inField "parameter"]

/-- The parameters of an arrow function, with its return type where one may stand. -/
def arrowSignature (g : Grammar) (place : Place) : Reader (List Node) := do
  let types ← option? (typeParameters g)
  let params ← parameters g
  let result ← if place.returnTypes then option? (returnType g .inside) else pure none
  return types.toList ++ [params] ++ result.toList

/-- The parameters of an arrow function up to the arrow. -/
def arrowHead (g : Grammar) (place : Place) : Reader (List Node) :=
  (loneParameter <|> arrowSignature g place) <* symbol "=>"

/-- An arrow function. -/
def arrow (g : Grammar) (place : Place) : Reader Node := do
  let head ← (keyword "async" *> goesOn place *> arrowHead g place) <|> arrowHead g place
  let inner ← Members.body g <|> (do return (← g.expression place).inField "body")
  return Node.branch "arrow_function" (head ++ [inner])

/-! ## Operands -/

/-- An operand with an operator before it. -/
def unary (g : Grammar) (place : Place) (operator : Reader Unit) (kind : String) :
    Reader Node := do
  operator
  return Node.branch kind [(← g.operand place).inField "argument"]

/-- A value handed out by a generator. -/
def yielded (g : Grammar) (place : Place) : Reader Node := do
  keyword "yield"
  let _ ← option? (goesOn place *> symbol "*")
  let value ← option? (goesOn place *> g.expression place)
  return Node.branch "yield_expression" value.toList

/-- An expression with a type asserted before it. -/
def typeAssertion (g : Grammar) (place : Place) : Reader Node := do
  let types ← typeArguments g
  return Node.branch "type_assertion" [types, ← g.operand place]

/-- An operand that starts with a word. -/
def wordOperand (g : Grammar) (place : Place) : Reader Node := do
  match ← peekWord? with
  | some "typeof" => unary g place (keyword "typeof") "unary_expression"
  | some "void" => unary g place (keyword "void") "unary_expression"
  | some "delete" => unary g place (keyword "delete") "unary_expression"
  | some "await" => unary g place (keyword "await") "await_expression"
  | some "yield" => yielded g place
  | _ => arrow g place <|> assignment g place

/-- What follows the parentheses of parameters: an arrow, or a type before it. -/
def afterParameters : Reader Unit := symbol "=>" <|> symbol ":"

/-- An operand that starts with a parenthesis. An expression in the parentheses stands, unless
what follows them shows that they hold the parameters of an arrow function. -/
def roundOperand (g : Grammar) (place : Place) : Reader Node := fun here =>
  match parenthesized g here with
  | none => arrow g place here
  | some (group, after) =>
    let plain := assignmentFrom g place (accessOf g place (pure group))
    if (afterParameters after).isSome then arrow g place here <|> plain after
    else plain after

/-- An operand that starts with an opening angle bracket. -/
def angleOperand (g : Grammar) (place : Place) : Reader Node :=
  arrow g place <|>
    match g.dialect with
    | .markup => assignment g place
    | .assertion => typeAssertion g place

/-- An operand: an expression without infix operators. -/
def operand (g : Grammar) (place : Place) : Reader Node := do
  match ← peek? with
  | some '(' => roundOperand g place
  | some '<' => angleOperand g place
  | some '!' => unary g place (symbol "!") "unary_expression"
  | some '~' => unary g place (symbol "~") "unary_expression"
  | some '+' =>
    unary g place (symbol "++") "update_expression" <|>
      unary g place (symbol "+") "unary_expression"
  | some '-' =>
    unary g place (symbol "--") "update_expression" <|>
      unary g place (symbol "-") "unary_expression"
  | some c => if startsName c then wordOperand g place else assignment g place
  | none => failure

/-! ## Rows of operands -/

/-- An operator that is a sign, with its operand. -/
def signPart (g : Grammar) (place : Place) :
    String × Bool × Operator → Reader (Operator × Node)
  | (sign, assigns, operator) => do
    if place.heritage && sign == "<" then refuse (typeArguments g)
    symbol sign
    if assigns then refuse (exactly "=")
    return (operator, ← g.operand place)

/-- An operator that is a word, with its operand. -/
def wordPart (operand : Reader Node) : String × Operator → Reader (Operator × Node)
  | (text, operator) => do
    keyword text
    return (operator, ← operand)

/-- One more operator and operand. -/
def part (g : Grammar) (place : Place) : Reader (Operator × Node) := do
  goesOn place
  match ← peek? with
  | some c =>
    if startsName c then
      firstOf (Operator.words.map (wordPart (g.operand place)) ++
        Operator.typeWords.map (wordPart (g.type place.forType)))
    else firstOf (Operator.signs.map (signPart g place))
  | none => failure

/-- The sign of a choice. -/
def choiceSign : Reader Unit := do
  symbol "?"
  refuse (exactly "?")
  refuse (exactly "." *> refuse (exactCount Char.isDigit 1))

/-- The two branches of a choice. In the first one a colon after arrow parameters may end the
branch, so both readings of it are tried. -/
def branches (g : Grammar) (place : Place) : Reader (Node × Node) := do
  goesOn place
  choiceSign
  let first ← (g.expression .inside <* symbol ":") <|>
    (g.expression { Place.inside with returnTypes := false } <* symbol ":")
  return (first, ← g.expression place)

/-- An expression. -/
def expression (g : Grammar) (place : Place) : Reader Node := do
  let first ← g.operand place
  let rest ← many (part g place)
  let row := Operator.group [] first rest
  match ← option? (branches g place) with
  | some (consequence, alternative) =>
    return Node.branch "ternary_expression"
      [row.inField "condition", consequence.inField "consequence",
       alternative.inField "alternative"]
  | none => return row

end ComponentAtlas.Script.Expression
