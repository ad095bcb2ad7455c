import ComponentAtlas.Json.Basic
import ComponentAtlas.Text.Digit

/-!
# Reading JSON

A document is one value with blanks around it. What is wrong with a document is told by
the first fault from the left and its place. Besides the standard notation the words
`NaN`, `Infinity` and `-Infinity` are numbers.

A reader takes the characters that are left and returns a value with the characters
after it. A fault remembers how many characters were left, from which its place follows.

A whole number may be well written and yet have more digits than are read. Reading breaks off
there, and that is no fault of the document: it has no place, and it is told apart from faults.
How many digits are read is a parameter of the readers.
-/

namespace ComponentAtlas.Json

/-- What can be wrong with a document. -/
inductive Fault where
  | expectingValue
  | expectingName
  | expectingColon
  | expectingComma
  | extraData
  | unterminatedText
  | invalidControl
  | invalidEscape
  | invalidUnicodeEscape
  | byteOrderMark
  deriving Repr, DecidableEq

/-- The wording of a fault. -/
def Fault.message : Fault → String
  | .expectingValue => "Expecting value"
  | .expectingName => "Expecting property name enclosed in double quotes"
  | .expectingColon => "Expecting ':' delimiter"
  | .expectingComma => "Expecting ',' delimiter"
  | .extraData => "Extra data"
  | .unterminatedText => "Unterminated string starting at"
  | .invalidControl => "Invalid control character at"
  | .invalidEscape => "Invalid \\escape"
  | .invalidUnicodeEscape => "Invalid \\uXXXX escape"
  | .byteOrderMark => "Unexpected UTF-8 BOM (decode using utf-8-sig)"

/-- Why reading does not succeed: a fault, with the number of characters from it to the end of
the document, or a whole number with too many digits. -/
inductive Failure where
  | faulty (fault : Fault) (left : Nat)
  | tooLong (digits : Nat)
  deriving Repr, DecidableEq

namespace Reader

/-- The result of reading a part of a document: what was read, and the characters left. -/
abbrev Outcome (α : Type) := Except Failure (α × List Char)

/-- A character that separates and means nothing. -/
def isSpace (c : Char) : Bool := c == ' ' || c == '\t' || c == '\n' || c == '\r'

/-- The characters from the first that is no space. -/
def skip (chars : List Char) : List Char := chars.dropWhile isSpace

/-! ## Texts -/

/-- The value of a hexadecimal digit. -/
def hexValue? (c : Char) : Option Nat :=
  if '0' ≤ c && c ≤ '9' then some (c.toNat - '0'.toNat)
  else if 'a' ≤ c && c ≤ 'f' then some (c.toNat - 'a'.toNat + 10)
  else if 'A' ≤ c && c ≤ 'F' then some (c.toNat - 'A'.toNat + 10)
  else none

/-- The value of four hexadecimal digits. -/
def unit? (a b c d : Char) : Option Nat := do
  let a ← hexValue? a
  let b ← hexValue? b
  let c ← hexValue? c
  let d ← hexValue? d
  return ((a * 16 + b) * 16 + c) * 16 + d

/-- What a backslash and one more character stand for. -/
def escape? : Char → Option Char
  | '"' => some '"'
  | '\\' => some '\\'
  | '/' => some '/'
  | 'b' => some '\x08'
  | 'f' => some '\x0C'
  | 'n' => some '\n'
  | 'r' => some '\r'
  | 't' => some '\t'
  | _ => none

/-- Reads a text after its opening quote, as code points in which escaped surrogates are
still apart. `start` is the number of characters left at that quote. -/
def textUnits (start : Nat) : List Char → Outcome (List Nat)
  | [] => .error (.faulty .unterminatedText start)
  | '"' :: rest => .ok ([], rest)
  | '\\' :: [] => .error (.faulty .unterminatedText start)
  | '\\' :: 'u' :: a :: b :: c :: d :: next :: rest =>
    match unit? a b c d with
    | some unit => (textUnits start (next :: rest)).map fun (units, left) => (unit :: units, left)
    | none => .error (.faulty .invalidUnicodeEscape (rest.length + 6))
  | '\\' :: 'u' :: rest => .error (.faulty .invalidUnicodeEscape (rest.length + 1))
  | '\\' :: c :: rest =>
    match escape? c with
    | some c => (textUnits start rest).map fun (units, left) => (c.toNat :: units, left)
    | none => .error (.faulty .invalidEscape (rest.length + 2))
  | c :: rest =>
    if c.toNat < 0x20 then .error (.faulty .invalidControl (rest.length + 1))
    else (textUnits start rest).map fun (units, left) => (c.toNat :: units, left)

/-- Joins a high surrogate with a low one after it. A surrogate left alone is no character
and is replaced. -/
def joinUnits : List Nat → List Char
  | [] => []
  | [unit] => [if 0xD800 ≤ unit && unit < 0xE000 then '\uFFFD' else Char.ofNat unit]
  | high :: low :: rest =>
    if 0xD800 ≤ high && high < 0xDC00 && 0xDC00 ≤ low && low < 0xE000 then
      Char.ofNat (0x10000 + (high - 0xD800) * 0x400 + (low - 0xDC00)) :: joinUnits rest
    else
      (if 0xD800 ≤ high && high < 0xE000 then '\uFFFD' else Char.ofNat high) ::
        joinUnits (low :: rest)

/-- Reads a text after its opening quote. -/
def text (afterQuote : List Char) : Outcome String :=
  (textUnits (afterQuote.length + 1) afterQuote).map fun (units, left) =>
    (String.ofList (joinUnits units), left)

/-! ## Numbers -/

/-- The value of decimal digits. -/
def digitsValue (digits : List Char) : Nat :=
  digits.foldl (fun value c => value * 10 + (c.toNat - '0'.toNat)) 0

/-- The digits of a whole part: a zero alone, or digits that start with none. -/
def wholeDigits : List Char → List Char × List Char
  | '0' :: rest => (['0'], rest)
  | chars => chars.span Char.isDigit

/-- The digits of a fraction, if a point and a digit are next. -/
def fractionDigits : List Char → Option (List Char × List Char)
  | '.' :: rest =>
    match rest.span Char.isDigit with
    | ([], _) => none
    | found => some found
  | _ => none

/-- The exponent, if its letter and, after a sign if any, a digit are next. -/
def exponent? : List Char → Option (Int × List Char)
  | letter :: rest =>
    if letter == 'e' || letter == 'E' then
      let (negative, rest) :=
        match rest with
        | '-' :: rest => (true, rest)
        | '+' :: rest => (false, rest)
        | rest => (false, rest)
      match rest.span Char.isDigit with
      | ([], _) => none
      | (digits, rest) =>
        some (if negative then -(digitsValue digits : Int) else digitsValue digits, rest)
    else none
  | [] => none

/-- Reads a number, if one is next. A fraction or an exponent makes it one of double precision;
without them it is whole and may have no more digits than the limit. -/
def number? (limit : Nat) (chars : List Char) : Option (Outcome Json) :=
  let (negative, unsigned) :=
    match chars with
    | '-' :: rest => (true, rest)
    | rest => (false, rest)
  match wholeDigits unsigned with
  | ([], _) => none
  | (whole, rest) =>
    let (fraction, afterFraction) := (fractionDigits rest).getD ([], rest)
    let (power, afterExponent) := (exponent? afterFraction).getD (0, afterFraction)
    if fraction.isEmpty && (exponent? afterFraction).isNone then
      let value : Int := digitsValue whole
      if limit < whole.length then some (.error (.tooLong whole.length))
      else some (.ok (.int (if negative then -value else value), rest))
    else
      some (.ok (.float (.ofDecimal negative (digitsValue (whole ++ fraction))
        (power - fraction.length)), afterExponent))

/-! ## Values -/

/-- The characters after a word, if it is next. -/
def word? (word : String) (chars : List Char) : Option (List Char) :=
  if word.toList.isPrefixOf chars then some (chars.drop word.length) else none

/-- The words that are values. -/
def words : List (String × Json) :=
  [("null", .null), ("true", .bool true), ("false", .bool false), ("NaN", .float .undefined),
   ("Infinity", .float (.infinite false)), ("-Infinity", .float (.infinite true))]

/-- Reads a value that is neither a text nor a list nor an object. -/
def plainValue (limit : Nat) (chars : List Char) : Outcome Json :=
  match words.findSome? fun (word, value) => (word? word chars).map (value, ·) with
  | some found => .ok found
  | none =>
    match number? limit chars with
    | some outcome => outcome
    | none => .error (.faulty .expectingValue chars.length)

/-- Reads the items of a list up to its closing bracket; `item` reads one value, and
`room` bounds their number. -/
def items (item : List Char → Outcome Json) :
    Nat → List Char → Except Failure (List Json × List Char)
  | 0, chars => .error (.faulty .expectingValue chars.length)
  | room + 1, chars => do
    let (value, rest) ← item chars
    match skip rest with
    | ']' :: rest => return ([value], rest)
    | ',' :: rest =>
      let (values, rest) ← items item room (skip rest)
      return (value :: values, rest)
    | rest => .error (.faulty .expectingComma rest.length)

/-- Reads the fields of an object up to its closing brace. -/
def fields (item : List Char → Outcome Json) :
    Nat → List Char → Except Failure (List (String × Json) × List Char)
  | 0, chars => .error (.faulty .expectingName chars.length)
  | room + 1, chars =>
    match chars with
    | '"' :: rest => do
      let (key, rest) ← text rest
      match skip rest with
      | ':' :: rest =>
        let (value, rest) ← item (skip rest)
        match skip rest with
        | '}' :: rest => return ([(key, value)], rest)
        | ',' :: rest =>
          let (pairs, rest) ← fields item room (skip rest)
          return ((key, value) :: pairs, rest)
        | rest => .error (.faulty .expectingComma rest.length)
      | rest => .error (.faulty .expectingColon rest.length)
    | chars => .error (.faulty .expectingName chars.length)

/-- Reads one value. Every value inside another starts later in the document, so the
length of the document bounds the depth. -/
def value (limit : Nat) : Nat → List Char → Outcome Json
  | 0, chars => .error (.faulty .expectingValue chars.length)
  | depth + 1, chars =>
    match chars with
    | '"' :: rest => (text rest).map fun (s, left) => (.str s, left)
    | '[' :: rest =>
      match skip rest with
      | ']' :: rest => .ok (.list [], rest)
      | rest => (items (value limit depth) (rest.length + 1) rest).map fun (found, left) =>
          (.list found, left)
    | '{' :: rest =>
      match skip rest with
      | '}' :: rest => .ok (.object [], rest)
      | rest => (fields (value limit depth) (rest.length + 1) rest).map fun (pairs, left) =>
          (.object (Keyed.ofPairs pairs), left)
    | chars => plainValue limit chars

/-- Reads a whole document. -/
def document (limit : Nat) (chars : List Char) : Except Failure Json := do
  if chars.head? == some '\uFEFF' then .error (.faulty .byteOrderMark chars.length)
  let start := skip chars
  let (result, rest) ← value limit (start.length + 1) start
  match skip rest with
  | [] => return result
  | rest => .error (.faulty .extraData rest.length)

end Reader

/-- A fault of a document and its place: a line and a column, counted from one, and the
number of characters before it. -/
structure ParseError where
  fault : Fault
  line : Nat
  column : Nat
  offset : Nat
  deriving Repr, DecidableEq

/-- The error in words. -/
def ParseError.message (e : ParseError) : String :=
  s!"{e.fault.message}: line {e.line} column {e.column} (char {e.offset})"

/-- The place of a fault in its document, of which so many characters are left. -/
def Fault.locate (chars : List Char) (fault : Fault) (left : Nat) : ParseError :=
  let offset := chars.length - left
  let before := chars.take offset
  { fault, offset
    line := before.count '\n' + 1
    column := (before.reverse.takeWhile (· != '\n')).length + 1 }

/-- Why a document is not read. -/
inductive Unread where
  | malformed (error : ParseError)
  | tooLong (digits : Nat)
  deriving Repr, DecidableEq

/-- Why a document is not read, from why reading it does not succeed. -/
def Failure.inDocument (chars : List Char) : Failure → Unread
  | .faulty fault left => .malformed (fault.locate chars left)
  | .tooLong digits => .tooLong digits

/-- Reads a document whose whole numbers have no more digits than the limit. -/
def parseWithin (limit : Nat) (s : String) : Except Unread Json :=
  (Reader.document limit s.toList).mapError (Failure.inDocument s.toList)

/-- Reads a document. -/
def parse (s : String) : Except Unread Json := parseWithin Text.digitLimit s

end ComponentAtlas.Json
