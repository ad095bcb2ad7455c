import ComponentAtlas.Script.Reader

/-!
# Semicolons

A statement may end without its semicolon before a closing brace, at the end of the
script, or at the end of a line, unless the next line starts with something that goes on
with the statement. Where a statement may end and does end in this way, it cannot go on,
even if the next token could continue it.
-/

namespace ComponentAtlas.Script

/-- Where an expression or a type stands. `mayEnd` says that a statement may end after it;
`inType` says that it is a type, which no opening bracket on the next line continues.
`returnTypes` says that a colon after arrow parameters starts a return type, and
`heritage` that the expression names a superclass, whose type arguments and class body
follow. -/
structure Place where
  mayEnd : Bool
  inType : Bool
  returnTypes : Bool
  heritage : Bool
  deriving Repr, DecidableEq

namespace Place

/-- Inside brackets: nothing ends a statement here. -/
def inside : Place := ⟨false, false, true, false⟩

/-- At the end of a statement. -/
def ending : Place := ⟨true, false, true, false⟩

/-- The same place for a type. -/
def forType (place : Place) : Place := { place with inType := true }

end Place

/-- The characters at the start of a line that go on with the statement before it. -/
def continuesLine (inType : Bool) : List Char → Bool
  | [] => false
  | '+' :: rest => rest.head? != some '+'
  | '-' :: rest => rest.head? != some '-'
  | '!' :: rest => rest.head? == some '='
  | '(' :: _ => !inType
  | '[' :: _ => !inType
  | 'i' :: 'n' :: rest =>
    let letter := fun (c : Option Char) => (c.map Char.isAlpha).getD false
    let stance := "stanceof".toList
    !letter rest.head? || (stance.isPrefixOf rest && !letter (rest.drop stance.length).head?)
  | c :: _ => "`,.;*%><=?^|&/:".toList.contains c

namespace Reader

/-- A statement that may end here does end here, without a semicolon. -/
def endsHere (inType : Bool) : Reader Bool := fun here =>
  let found := gap false here
  let ends :=
    match found.rest with
    | [] => true
    | '\x7d' :: _ => true
    | rest => found.lineEnded && !continuesLine inType rest
  some (ends, here)

/-- What stands at a place may go on. -/
def goesOn (place : Place) : Reader Unit := do
  if place.mayEnd then
    require !(← endsHere place.inType)

/-- The end of a statement. -/
def semicolon (inType : Bool) : Reader Unit :=
  symbol ";" <|> (do require (← endsHere inType))

end Reader

end ComponentAtlas.Script
