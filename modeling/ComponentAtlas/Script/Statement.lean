import ComponentAtlas.Script.Expression

/-!
# Statements

Declarations, imports and exports, and the statements that control a program. A word that
starts a statement of its own is no name there; the words that may also be names start a
statement only if it can be read.
-/

namespace ComponentAtlas.Script.Statement

open Reader Syntax Phrase Binding Members

/-! ## Variables -/

/-- One variable of a declaration. -/
def declarator (g : Grammar) (place : Place) : Reader Node := do
  let name ← destructuring g <|> identifier
  let type ← option? (goesOn place *> option? (symbol "!") *> ascription g place)
  let value ← option? (goesOn place *> initializer g place)
  return Node.branch "variable_declarator"
    (name.inField "name" :: type.toList ++ value.toList)

/-- Variables of one declaration after its keyword. -/
def declarators (g : Grammar) (place : Place) : Reader (List Node) :=
  separated (symbol ",") (declarator g place)

/-- The kind of a declaration that starts with a keyword. -/
def variableKind (keyword : String) : String :=
  if keyword == "var" then "variable_declaration" else "lexical_declaration"

/-- A declaration of variables. -/
def variableDeclaration (g : Grammar) : Reader Node := do
  let kind ← keywordOf ["var", "let", "const"]
  if kind == "let" then goesOn .ending
  let items ← declarators g .ending
  semicolon false
  return Node.branch (variableKind kind) items

/-! ## Types and names -/

/-- One name of an enumeration, perhaps with a value. -/
def enumMember (g : Grammar) : Reader Node := do
  let name ← propertyName g
  match ← option? (initializer g .inside) with
  | some value => return Node.branch "enum_assignment" [name.inField "name", value]
  | none => return name.inField "name"

/-- An enumeration. -/
def enumeration (g : Grammar) : Reader Node := do
  let _ ← option? (keyword "const")
  keyword "enum"
  let name ← identifier
  let members ← between "\x7b" "\x7d" (option? (commaList (enumMember g)))
  return Node.branch "enum_declaration"
    [name.inField "name", (Node.branch "enum_body" (members.getD [])).inField "body"]

/-- An interface. -/
def interface (g : Grammar) : Reader Node := do
  keyword "interface"
  let name ← typeIdentifier
  let types ← option? (typeParameters g)
  let parents ← option? (keyword "extends" *> separated (symbol ",") (Types.named g .inside))
  let parents := parents.map (Node.branch "extends_type_clause")
  let inner := Node.branch "interface_body" (← Types.objectBody g)
  return Node.branch "interface_declaration"
    (name.inField "name" :: types.toList ++ parents.toList ++ [inner.inField "body"])

/-- A name for a type. -/
def typeAlias (g : Grammar) : Reader Node := do
  keyword "type"
  goesOn .ending
  let name ← typeIdentifier
  let types ← option? (typeParameters g)
  symbol "="
  let value ← g.type Place.ending.forType
  semicolon true
  return Node.branch "type_alias_declaration"
    (name.inField "name" :: types.toList ++ [value.inField "value"])

/-- A namespace or a module, whose body may be missing. -/
def namespaceBlock (g : Grammar) : Reader Node := do
  let word ← keywordOf ["namespace", "module"]
  goesOn .ending
  let name ← (if word == "module" then Literal.text else failure) <|> dottedName
  let inner ← option? (body g)
  let kind := if word == "module" then "module" else "internal_module"
  return Node.branch kind (name.inField "name" :: inner.toList)

/-- Another name for a member of a module. -/
def importAlias : Reader Node := do
  keyword "import"
  let name ← identifier
  symbol "="
  let target ← dottedName
  semicolon false
  return Node.branch "import_alias" [name, target]

/-! ## Declarations -/

/-- A declaration without what it describes being present. -/
def ambient (g : Grammar) (declaration : Reader Node) : Reader Node := do
  keyword "declare"
  goesOn .ending
  let inner ← firstOf [
    declaration,
    do keyword "global"; block g,
    do
      keyword "module" *> symbol "."
      let name ← identifier
      let type ← ascription g .ending
      semicolon true
      return Node.branch "ambient_member" [name, type]]
  return Node.branch "ambient_declaration" [inner]

/-- A declaration that describes what is present. -/
def plainDeclaration (g : Grammar) : Reader Node :=
  firstOf [functionDeclaration g, classDeclaration g, enumeration g, variableDeclaration g,
    interface g, typeAlias g, namespaceBlock g, importAlias]

/-- A declaration. -/
def declaration (g : Grammar) : Reader Node :=
  plainDeclaration g <|> ambient g (plainDeclaration g <|> ambient g (plainDeclaration g))

/-! ## Imports -/

/-- The module that names come from. -/
def fromClause : Reader Node := do
  keyword "from"
  return (← Literal.text).inField "source"

/-- A name of another module: a word or a text. -/
def exportedName : Reader Node := identifier <|> Literal.text

/-- A name that is imported or exported, perhaps under another one. -/
def specifier (kind : String) : Reader Node := do
  let plain : Reader Node := do
    let name ← exportedName
    let other ← option? (keyword "as" *> exportedName)
    let _ ← ahead (symbol "," <|> symbol "\x7d")
    return Node.branch kind (name.inField "name" :: (other.map (·.inField "alias")).toList)
  plain <|> (keywordOf ["type", "typeof"] *> plain)

/-- Names in braces. -/
def specifiers (kind : String) : Reader (List Node) := do
  return (← between "\x7b" "\x7d" (option? (commaList (specifier kind)))).getD []

/-- All names of a module under one name. -/
def namespaceImport : Reader Node := do
  symbol "*" *> keyword "as"
  return Node.branch "namespace_import" [← identifier]

/-- Names in braces or all names. -/
def importedNames : Reader Node :=
  namespaceImport <|> (do return Node.branch "named_imports" (← specifiers "import_specifier"))

/-- What an import brings in. -/
def importClause : Reader Node :=
  (do return Node.branch "import_clause" [← importedNames]) <|> (do
    let name ← identifier
    let more ← option? (symbol "," *> importedNames)
    return Node.branch "import_clause" (name :: more.toList))

/-- An import of a whole module under a name. -/
def requireClause : Reader (List Node) := do
  let name ← identifier
  symbol "=" *> keyword "require"
  let source ← between "(" ")" Literal.text
  return [Node.branch "import_require_clause" [name, source.inField "source"]]

/-- What an import statement says after its keyword. -/
def importParts : Reader (List Node) :=
  firstOf [
    do return [← importClause, ← fromClause],
    requireClause,
    do return [(← Literal.text).inField "source"]]

/-- An import. -/
def importStatement (g : Grammar) : Reader Node := do
  keyword "import"
  let parts ← importParts <|> (keywordOf ["type", "typeof"] *> importParts)
  let attributes ← option? (keyword "with" *> Members.object g)
  semicolon false
  return Node.branch "import_statement"
    (parts ++ (attributes.map fun found => Node.branch "import_attribute" [found]).toList)

/-! ## Exports -/

/-- Names that are exported, perhaps from another module. -/
def exportedNames : Reader (List Node) := do
  let clause := Node.branch "export_clause" (← specifiers "export_specifier")
  let source ← option? fromClause
  return clause :: source.toList

/-- All names of another module. -/
def exportedModule : Reader (List Node) := do
  symbol "*"
  let name ← option? (keyword "as" *> exportedName)
  let source ← fromClause
  return (name.map fun name => Node.branch "namespace_export" [name]).toList ++ [source]

/-- The exports that end as a statement does. -/
def exportList (g : Grammar) : Reader (List Node) := do
  let parts ← firstOf [
    exportedModule,
    exportedNames,
    keyword "type" *> exportedNames,
    do
      symbol "="
      return [← g.expression .ending],
    do
      keyword "as" *> keyword "namespace"
      return [← identifier]]
  semicolon false
  return parts

/-- The default export: a declaration, or the value of an expression. -/
def exportDefault (g : Grammar) : Reader (List Node) := do
  keyword "default"
  (do return [(← declaration g).inField "declaration"]) <|> (do
    let value ← g.expression .ending
    semicolon false
    return [value.inField "value"])

/-- An export. -/
def exportStatement (g : Grammar) : Reader Node := do
  let decorators ← many (decorator g)
  keyword "export"
  let parts ← firstOf [
    exportDefault g,
    exportList g,
    do return [(← declaration g).inField "declaration"]]
  return Node.branch "export_statement" (decorators ++ parts)

/-! ## Control -/

/-- A condition in parentheses. -/
def condition (g : Grammar) (field : String) : Reader Node := do
  return (← Expression.parenthesized g).inField field

/-- A statement as a part of another. -/
def inner (g : Grammar) (field : String) : Reader Node := do
  return (← g.statement).inField field

/-- A conditional statement. -/
def conditional (g : Grammar) : Reader Node := do
  keyword "if"
  let test ← condition g "condition"
  let first ← inner g "consequence"
  match ← option? (keyword "else" *> g.statement) with
  | some second =>
    let alternative := (Node.branch "else_clause" [second]).inField "alternative"
    return Node.branch "if_statement" [test, first, alternative]
  | none => return Node.branch "if_statement" [test, first]

/-- One case of a switch. -/
def switchCase (g : Grammar) : Reader Node := do
  let value ← (keyword "case" *> some <$> expressions g .inside) <|>
    (keyword "default" *> pure none)
  symbol ":"
  let statements ← many g.statement
  match value with
  | some value => return Node.branch "switch_case" (value.inField "value" :: statements)
  | none => return Node.branch "switch_default" statements

/-- A switch. -/
def switch (g : Grammar) : Reader Node := do
  keyword "switch"
  let value ← condition g "value"
  let cases ← between "\x7b" "\x7d" (many (switchCase g))
  return Node.branch "switch_statement" [value, (Node.branch "switch_body" cases).inField "body"]

/-- A part of a loop's head that ends with a semicolon. -/
def headPart (g : Grammar) : Reader (List Node) := do
  let found ← option? (expressions g .inside)
  symbol ";"
  return found.toList

/-- The first part of a counting loop's head. -/
def headStart (g : Grammar) : Reader (List Node) :=
  (do
    let kind ← keywordOf ["var", "let", "const"]
    let items ← declarators g .inside
    symbol ";"
    return [(Node.branch (variableKind kind) items).inField "initializer"]) <|> headPart g

/-- The head of a counting loop. -/
def countingHead (g : Grammar) : Reader (List Node) := do
  let start ← headStart g
  let test ← headPart g
  let step ← option? (expressions g .inside)
  return start ++ test ++ step.toList

/-- What each round of a loop over a collection binds. -/
def loopTarget (g : Grammar) : Reader (List Node) :=
  (do
    let _ ← keywordOf ["var", "let", "const"]
    let name ← destructuring g <|> identifier
    let value ← option? (initializer g .inside)
    return name.inField "left" :: value.toList) <|> (do
    let target ← g.pattern <|> Expression.parenthesized g
    return [target.inField "left"])

/-- The head of a loop over a collection. -/
def collectionHead (g : Grammar) : Reader (List Node) := do
  let target ← loopTarget g
  let _ ← keywordOf ["in", "of"]
  let right ← expressions g .inside
  return target ++ [right.inField "right"]

/-- A loop with a head. -/
def forLoop (g : Grammar) : Reader Node := do
  keyword "for"
  let (kind, head) ←
    (do
      let _ ← option? (keyword "await")
      return ("for_in_statement", ← between "(" ")" (collectionHead g))) <|>
    (do return ("for_statement", ← between "(" ")" (countingHead g)))
  return Node.branch kind (head ++ [← inner g "body"])

/-- A loop that tests before each round. -/
def whileLoop (g : Grammar) : Reader Node := do
  keyword "while"
  let test ← condition g "condition"
  return Node.branch "while_statement" [test, ← inner g "body"]

/-- A loop that tests after each round. -/
def doLoop (g : Grammar) : Reader Node := do
  keyword "do"
  let round ← inner g "body"
  keyword "while"
  let test ← condition g "condition"
  let _ ← option? (semicolon false)
  return Node.branch "do_statement" [round, test]

/-- What a handler binds. -/
def caught (g : Grammar) : Reader (List Node) :=
  between "(" ")" (do
    let name ← destructuring g <|> identifier
    let type ← option? (ascription g .inside)
    return name.inField "parameter" :: type.toList)

/-- A handler. -/
def handler (g : Grammar) : Reader Node := do
  keyword "catch"
  let bound ← option? (caught g)
  return Node.branch "catch_clause" (bound.getD [] ++ [← body g])

/-- A guarded block. -/
def guarded (g : Grammar) : Reader Node := do
  keyword "try"
  let first ← body g
  let second ← option? (handler g)
  let last ← option? (do
    keyword "finally"
    return Node.branch "finally_clause" [← body g])
  return Node.branch "try_statement" (first :: second.toList ++ last.toList)

/-- A block with the members of an object in scope. -/
def withBlock (g : Grammar) : Reader Node := do
  keyword "with"
  let object ← condition g "object"
  return Node.branch "with_statement" [object, ← inner g "body"]

/-- A jump, perhaps to a label. -/
def jump (text kind : String) : Reader Node := do
  keyword text
  let label ← option? (goesOn .ending *> word)
  semicolon false
  return Node.branch kind (label.map (Node.leaf "statement_identifier")).toList

/-- A statement that hands a value on, which may be missing where `optional` holds. -/
def handing (g : Grammar) (text kind : String) (optional : Bool) : Reader Node := do
  keyword text
  let value ← option? (goesOn .ending *> expressions g .ending)
  require (optional || value.isSome)
  semicolon false
  return Node.branch kind value.toList

/-! ## All statements -/

/-- An expression as a statement. -/
def expressionStatement (g : Grammar) : Reader Node := do
  let value ← expressions g .ending
  semicolon false
  return Node.branch "expression_statement" [value]

/-- A statement with a label. -/
def labeled (g : Grammar) : Reader Node := do
  let label := (Node.leaf "statement_identifier" (← word)).inField "label"
  symbol ":"
  return Node.branch "labeled_statement" [label, ← inner g "body"]

/-- A statement that starts with a word. -/
def wordStatement (g : Grammar) (first : String) : Reader Node :=
  match first with
  | "import" => firstOf [importAlias, importStatement g, expressionStatement g]
  | "export" => exportStatement g
  | "var" | "const" => enumeration g <|> variableDeclaration g
  | "let" => variableDeclaration g <|> expressionStatement g
  | "enum" => enumeration g
  | "interface" => interface g
  | "abstract" => classDeclaration g
  | "function" => functionDeclaration g <|> expressionStatement g
  | "async" => functionDeclaration g <|> labeled g <|> expressionStatement g
  | "class" => classDeclaration g <|> expressionStatement g
  | "type" | "namespace" | "module" | "declare" =>
    firstOf [declaration g, labeled g, expressionStatement g]
  | "if" => conditional g
  | "switch" => switch g
  | "for" => forLoop g
  | "while" => whileLoop g
  | "do" => doLoop g
  | "try" => guarded g
  | "with" => withBlock g
  | "break" => jump "break" "break_statement"
  | "continue" => jump "continue" "continue_statement"
  | "debugger" => do
    keyword "debugger"
    semicolon false
    return Node.branch "debugger_statement" []
  | "return" => handing g "return" "return_statement" true
  | "throw" => handing g "throw" "throw_statement" false
  | "case" | "default" => failure
  | _ => labeled g <|> expressionStatement g

/-- A statement. -/
def statement (g : Grammar) : Reader Node := do
  match ← peek? with
  | some ';' => symbol ";" *> pure (Node.branch "empty_statement" [])
  | some '\x7b' => block g <|> expressionStatement g
  | some '@' => firstOf [exportStatement g, classDeclaration g, expressionStatement g]
  | _ =>
    match ← peekWord? with
    | some first => wordStatement g first
    | none => expressionStatement g

end ComponentAtlas.Script.Statement
