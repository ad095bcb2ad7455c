import ComponentAtlas.Text.Ranges

/-!
# Blanks

White space in the sense of Unicode, together with the four information separators.
Trimming removes blanks at both ends of a text and none inside.
-/

namespace ComponentAtlas.Text

/-- The code points of blank characters. -/
def blankRanges : List (Nat × Nat) := [
  (0x9, 0xD), (0x1C, 0x20), (0x85, 0x85), (0xA0, 0xA0), (0x1680, 0x1680), (0x2000, 0x200A),
  (0x2028, 0x2029), (0x202F, 0x202F), (0x205F, 0x205F), (0x3000, 0x3000)]

/-- A blank character. -/
def isBlank (c : Char) : Bool := inRanges blankRanges c

/-- The characters without the blanks at their head. -/
def trimLeft (chars : List Char) : List Char := chars.dropWhile isBlank

/-- The characters without the blanks at their end. -/
def trimRight (chars : List Char) : List Char := (trimLeft chars.reverse).reverse

/-- The text without blanks at either end. -/
def trim (s : String) : String := String.ofList (trimRight (trimLeft s.toList))

end ComponentAtlas.Text
