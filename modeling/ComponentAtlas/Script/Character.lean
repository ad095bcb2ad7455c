import ComponentAtlas.Text.Ranges

/-!
# Characters of a script

Blanks separate tokens. A name may hold any character that is neither a blank nor a
control character nor punctuation of the language, and does not start with a digit, so
letters of every alphabet can stand in a name.
-/

namespace ComponentAtlas.Script

/-- The code points that separate tokens: white space, and the invisible spaces. -/
def blankRanges : List (Nat × Nat) := [
  (0x9, 0xD), (0x20, 0x20), (0x85, 0x85), (0xA0, 0xA0), (0x1680, 0x1680), (0x2000, 0x200B),
  (0x2028, 0x2029), (0x202F, 0x202F), (0x205F, 0x2060), (0x3000, 0x3000), (0xFEFF, 0xFEFF)]

/-- A character that separates tokens. -/
def isBlank (c : Char) : Bool := Text.inRanges blankRanges c

/-- A character that ends a line. -/
def isLineEnd (c : Char) : Bool :=
  c == '\n' || c == '\r' || c.toNat == 0x2028 || c.toNat == 0x2029

/-- The punctuation of the language, which no name can hold. -/
def punctuation : List Char := ":;`\"'@#.,|^&<=>+-*/\\%?!~()[]\x7b\x7d".toList

/-- A character that may continue a name. -/
def continuesName (c : Char) : Bool :=
  0x20 ≤ c.toNat && !isBlank c && !punctuation.contains c

/-- A character that may start a name. -/
def startsName (c : Char) : Bool := continuesName c && !c.isDigit

/-- A letter, digit or sign of the plain names that markup joins with hyphens. -/
def isPlainNamePart (c : Char) : Bool := c.isAlphanum || c == '_' || c == '$'

end ComponentAtlas.Script
