import ComponentAtlas.Text.Printable

/-!
# Quoted text

A text is shown in single quotes, or in double quotes when it holds a single quote and no
double one. The quote in use and the backslash are escaped by a backslash, as are line
feed, carriage return and tab; any other character that is not printable is given by its
code point with two, four or eight hexadecimal digits.
-/

namespace ComponentAtlas.Text.Quoted

/-- The small hexadecimal digits of a number, padded with zeros to `width`. -/
def hex (width value : Nat) : List Char :=
  let digits := Nat.toDigits 16 value
  List.replicate (width - digits.length) '0' ++ digits

/-- How one character is written between `quote`s. -/
def encodeChar (quote c : Char) : List Char :=
  if c == quote || c == '\\' then ['\\', c]
  else if c == '\n' then ['\\', 'n']
  else if c == '\r' then ['\\', 'r']
  else if c == '\t' then ['\\', 't']
  else if isPrintable c then [c]
  else if c.toNat < 0x100 then '\\' :: 'x' :: hex 2 c.toNat
  else if c.toNat < 0x10000 then '\\' :: 'u' :: hex 4 c.toNat
  else '\\' :: 'U' :: hex 8 c.toNat

/-- The quote that needs the fewest escapes, the single one if both do as well. -/
def quoteFor (chars : List Char) : Char :=
  if chars.contains '\'' && !chars.contains '"' then '"' else '\''

/-- The quoted form of a text. -/
def encode (s : String) : String :=
  let quote := quoteFor s.toList
  String.ofList (quote :: s.toList.flatMap (encodeChar quote) ++ [quote])

end ComponentAtlas.Text.Quoted
