import ComponentAtlas.Text.Blank

/-!
# Decimal digits and integers

Unicode has many sets of ten decimal digits, each in the order of their values. An
integer is written as one optional sign and at most 4300 digits of any of these sets, where
a single underscore may stand between two digits and white space may surround the whole.

The bound holds in both directions. An integer may be larger than any that a text gives; it can
be reckoned with, but no text can be made of it.
-/

namespace ComponentAtlas.Text

/-- The code points of the digits that stand for zero. Nine more digits follow each. -/
def zeroDigits : List Nat := [
  0x30, 0x660, 0x6F0, 0x7C0, 0x966, 0x9E6, 0xA66, 0xAE6, 0xB66, 0xBE6, 0xC66, 0xCE6, 0xD66,
  0xDE6, 0xE50, 0xED0, 0xF20, 0x1040, 0x1090, 0x17E0, 0x1810, 0x1946, 0x19D0, 0x1A80, 0x1A90,
  0x1B50, 0x1BB0, 0x1C40, 0x1C50, 0xA620, 0xA8D0, 0xA900, 0xA9D0, 0xA9F0, 0xAA50, 0xABF0, 0xFF10,
  0x104A0, 0x10D30, 0x11066, 0x110F0, 0x11136, 0x111D0, 0x112F0, 0x11450, 0x114D0, 0x11650,
  0x116C0, 0x11730, 0x118E0, 0x11950, 0x11C50, 0x11D50, 0x11DA0, 0x16A60, 0x16AC0, 0x16B50,
  0x1D7CE, 0x1D7D8, 0x1D7E2, 0x1D7EC, 0x1D7F6, 0x1E140, 0x1E2F0, 0x1E950, 0x1FBF0]

/-- The value of a decimal digit. -/
def digitValue? (c : Char) : Option Nat :=
  (zeroDigits.find? fun first => first ≤ c.toNat && c.toNat < first + 10).map (c.toNat - ·)

/-- A decimal digit of any script. -/
def isDecimalDigit (c : Char) : Bool := (digitValue? c).isSome

/-- Reads digits from the most significant one on. `value` is what has been read;
`digitLast` says whether the last character was a digit, so that an underscore may stand
here. -/
def readDigits? (value : Nat) (digitLast : Bool) : List Char → Option Nat
  | [] => if digitLast then some value else none
  | c :: rest =>
    if c == '_' then
      if digitLast then readDigits? value false rest else none
    else
      match digitValue? c with
      | some digit => readDigits? (value * 10 + digit) true rest
      | none => none

/-- The greatest number of digits that an integer is written with. -/
def digitLimit : Nat := 4300

/-- An integer that is written with few enough digits. -/
def isShort (value : Int) : Bool := value.natAbs < Nat.pow 10 digitLimit

/-- The integer as a text, in digits of ASCII, unless it has too many of them. -/
def writeInteger? (value : Int) : Option String :=
  if isShort value then some (toString value) else none

/-- What is said of an integer that cannot be written. -/
def tooLongToWrite : String :=
  s!"Exceeds the limit ({digitLimit} digits) for integer string conversion; "
    ++ "use sys.set_int_max_str_digits() to increase the limit"

/-- What is said of an integer that cannot be read for its digits. -/
def tooLongToRead (digits : Nat) : String :=
  s!"Exceeds the limit ({digitLimit} digits) for integer string conversion: "
    ++ s!"value has {digits} digits; use sys.set_int_max_str_digits() to increase the limit"

/-- White space around an integer: a blank that is no information separator. -/
def isMargin (c : Char) : Bool := isBlank c && !(0x1C ≤ c.toNat && c.toNat ≤ 0x1F)

/-- A text without the white space around an integer. -/
def withoutMargins (s : String) : List Char :=
  ((s.toList.dropWhile isMargin).reverse.dropWhile isMargin).reverse

/-- The number that digits write, unless there are too many of them. -/
def readNumeral? (digits : List Char) : Option Nat :=
  if digits.countP isDecimalDigit ≤ digitLimit then readDigits? 0 false digits else none

/-- The integer that a text writes. -/
def readInteger? (s : String) : Option Int :=
  match withoutMargins s with
  | '-' :: digits => (readNumeral? digits).map fun n => -(n : Int)
  | '+' :: digits => (readNumeral? digits).map Int.ofNat
  | digits => (readNumeral? digits).map Int.ofNat

end ComponentAtlas.Text
