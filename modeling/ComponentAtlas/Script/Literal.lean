import ComponentAtlas.Script.Reader
import ComponentAtlas.Syntax.Node

/-!
# Literals

Texts in quotes, numbers and regular expressions. None of them holds other syntax, so each
becomes a leaf. Texts and expressions end on their line unless the line end is escaped.
-/

namespace ComponentAtlas.Script.Literal

open Reader Syntax

/-! ## Texts -/

/-- What may follow a backslash in a text: a character code, or any other character. -/
def escapeBody : Reader Unit :=
  firstOf [
    exactly "x" *> exactCount isHexDigit 2 *> pure (),
    exactly "u" *> unicodeEscape *> pure (),
    exactly "\r\n",
    exactCount (fun c => c != 'x' && c != 'u') 1 *> pure ()]

/-- The inside of a text up to its closing quote. -/
def textBody (quote : Char) : Reader Unit := do
  let plain := fun c => c != quote && c != '\\' && c != '\r' && c != '\n'
  let _ ← many (run1 plain *> pure () <|> exactly "\\" *> escapeBody)
  exactly (String.ofList [quote])

/-- A text in quotes. -/
def text : Reader Node := do
  skip
  (exactly "\"" *> textBody '"') <|> (exactly "'" *> textBody '\'')
  return Node.branch "string" []

/-! ## Numbers -/

/-- Digits, where one underscore may stand between two. -/
def digits (holds : Char → Bool) : Reader Unit := do
  let _ ← run1 holds
  let _ ← many (exactly "_" *> run1 holds)

/-- The exponent of a number. -/
def exponent : Reader Unit := do
  exactly "e" <|> exactly "E"
  let _ ← option? (exactly "+" <|> exactly "-")
  digits Char.isDigit

/-- A number with a letter for its base. -/
def based (small capital : String) (holds : Char → Bool) : Reader Unit := do
  exactly small <|> exactly capital
  digits holds
  let _ ← option? (exactly "n")

/-- A number. -/
def number : Reader Node := do
  skip
  firstOf [
    based "0x" "0X" isHexDigit,
    based "0b" "0B" (fun c => c == '0' || c == '1'),
    based "0o" "0O" (fun c => '0' ≤ c && c ≤ '7'),
    exactly "." *> digits Char.isDigit *> option? exponent *> pure (),
    do
      digits Char.isDigit
      (exactly "n") <|> (do
        let _ ← option? (exactly "." *> option? (digits Char.isDigit))
        let _ ← option? exponent)]
  return Node.branch "number" []

/-! ## Regular expressions -/

/-- A character class of a regular expression, after its opening bracket. -/
def patternClass : Reader Unit := do
  let plain := fun c => c != ']' && c != '\\' && c != '\n'
  let _ ← many (run1 plain *> pure () <|> exactly "\\" *> exactCount (· != '\n') 1 *> pure ())
  exactly "]"

/-- A regular expression with its flags. -/
def regex : Reader Node := do
  symbol "/"
  let plain := fun c => c != '/' && c != '\\' && c != '[' && c != '\n'
  let parts ← many (firstOf [
    run1 plain *> pure (),
    exactly "\\" *> exactCount (· != '\n') 1 *> pure (),
    exactly "[" *> patternClass])
  require !parts.isEmpty
  exactly "/"
  let _ ← run (fun c => 'a' ≤ c && c ≤ 'z')
  return Node.branch "regex" []

end ComponentAtlas.Script.Literal
