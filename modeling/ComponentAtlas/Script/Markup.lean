import ComponentAtlas.Script.Phrase

/-!
# Markup

Elements have a name, attributes and, unless they close themselves, content up to a closing
tag. The names of the two tags need not agree. Content is text, character references,
expressions in braces and further elements; in text the signs of markup and a closing brace
are refused. A fragment is an element whose tags have no names.
-/

namespace ComponentAtlas.Script.Markup

open Reader Syntax Phrase

/-! ## Names -/

/-- A character after the first hyphen of a name. -/
def isHyphenated (c : Char) : Bool := isPlainNamePart c || c == '-'

/-- A name of markup: a word, or plain words joined by hyphens. -/
def name : Reader String := do
  let first ← word
  match ← option? (exactly "-" *> run isHyphenated) with
  | some rest =>
    require (first.toList.all isPlainNamePart)
    return first ++ "-" ++ String.ofList rest
  | none => return first

/-- A name after a colon, which makes a namespaced name with the one before. -/
def namespaced (first : Node) : Reader Node := do
  symbol ":"
  return Node.branch "jsx_namespace_name" [first, Node.leaf "identifier" (← name)]

/-- Members after a name. -/
def member (first : Node) : Reader Node := do
  let members ← many (symbol "." *> word)
  require !members.isEmpty
  return members.foldl (fun object property => Node.branch "member_expression"
    [object.inField "object", (Node.leaf "property_identifier" property).inField "property"]) first

/-- The name of a tag: plain, namespaced or a chain of members. A name with a hyphen has no
members. -/
def tagName : Reader Node := do
  let text ← name
  let first := Node.leaf "identifier" text
  firstOf [
    namespaced first,
    do require !(text.toList.contains '-'); member first,
    pure first]

/-! ## Attributes -/

/-- A character reference. -/
def reference : Reader Unit := do
  exactly "&"
  let number := exactly "#" *>
    (((exactly "x" <|> exactly "X") *> digits isHexDigit 6) <|> digits Char.isDigit 5)
  number <|> digits Char.isAlpha 30
  exactly ";"
where
  /-- At least one and at most `limit` characters that hold a property. -/
  digits (holds : Char → Bool) (limit : Nat) : Reader Unit := do
    let found ← run1 holds
    require (found.length ≤ limit)

/-- An ampersand that cannot start a reference, with the character after it. -/
def bareAmpersand : Reader Unit := do
  exactly "&"
  let _ ← exactCount (fun c => !(c.isAlpha || c == '#')) 1

/-- A text in quotes as an attribute's value. It may span lines and has no escapes. -/
def attributeText (quote : Char) : Reader Unit := do
  symbol (String.ofList [quote])
  let plain := fun c => c != quote && c != '&'
  let _ ← many (firstOf [run1 plain *> pure (), reference, bareAmpersand])
  exactly (String.ofList [quote])

/-- An expression in braces, which may be missing or stand for many. -/
def expression (g : Grammar) : Reader Node := do
  let inner ← between "\x7b" "\x7d" (option? (spread g <|> expressions g .inside))
  return Node.branch "jsx_expression" inner.toList

/-- The value of an attribute. -/
def attributeValue (g : Grammar) : Reader Node :=
  firstOf [
    attributeText '"' *> pure (Node.branch "string" []),
    attributeText '\'' *> pure (Node.branch "string" []),
    expression g,
    g.element]

/-- An attribute: a name, perhaps with a value, or an expression. -/
def tagAttribute (g : Grammar) : Reader Node :=
  expression g <|> (do
    let first := Node.leaf "property_identifier" (← name)
    let name ← namespaced first <|> pure first
    let value ← option? (symbol "=" *> attributeValue g)
    return Node.branch "jsx_attribute" (name :: value.toList))

/-! ## Elements -/

/-- What a tag says before its closing sign: a name with its type arguments, and attributes.
The tags of a fragment say nothing. -/
def tagHead (g : Grammar) : Reader (List Node) := do
  match ← option? tagName with
  | none => return []
  | some name =>
    let types ← option? (typeArguments g)
    require (types.isNone || (name.kind != "jsx_namespace_name" &&
      !(name.text.toList.contains '-')))
    let attributes ← many (tagAttribute g)
    return name.inField "name" :: types.toList ++ attributes

/-- A run of text, which is no node when it only breaks lines. -/
def text : Reader (List Node) := do
  let found ← run1 fun c => !"<>&\x7b\x7d".toList.contains c
  return if found.all isBlank then [] else [Node.branch "jsx_text" []]

/-- A comment of the surrounding document, up to the end of its line. -/
def documentComment : Reader (List Node) := do
  exactly "<!--"
  let _ ← run fun c => !isLineEnd c
  return []

/-- One piece of content. -/
def content (g : Grammar) : Reader (List Node) :=
  firstOf [
    text,
    reference *> pure [Node.branch "html_character_reference" []],
    do return [← expression g],
    documentComment,
    do
      refuse (exactly "</")
      return [← g.element]]

/-- A closing tag. -/
def closingTag : Reader Node := do
  exactly "</"
  let name ← option? tagName
  symbol ">"
  return (Node.branch "jsx_closing_element" (name.map (·.inField "name")).toList).inField
    "close_tag"

/-- An element. -/
def element (g : Grammar) : Reader Node := do
  symbol "<"
  let head ← tagHead g
  if (← option? (symbol "/>")).isSome then
    return Node.branch "jsx_self_closing_element" head
  symbol ">"
  let opening := (Node.branch "jsx_opening_element" head).inField "open_tag"
  let inner ← many (content g)
  let closing ← closingTag
  return Node.branch "jsx_element" (opening :: inner.flatten ++ [closing])

end ComponentAtlas.Script.Markup
