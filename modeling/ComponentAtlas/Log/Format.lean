import ComponentAtlas.Log.Entry
import ComponentAtlas.Text.Digit
import ComponentAtlas.Text.Quoted
import ComponentAtlas.Text.Word
import ComponentAtlas.Time.Instant

/-!
# Formats of log entries

A format is a text with fields: a percent sign, a name in parentheses and a letter, with
marks for padding between them. A percent sign written twice stands for one. A format has to
have a field, and an entry is written only if every field has a value.
-/

namespace ComponentAtlas.Log

/-- A field of a format. -/
structure Field where
  name : String
  toLeft : Bool
  width : Nat
  limit : Option Nat
  conversion : Char
  deriving Repr, DecidableEq

/-- The value of a row of digits. -/
def digitsValue (digits : List Char) : Nat :=
  digits.foldl (fun value c => value * 10 + (Text.digitValue? c).getD 0) 0

/-- The greatest number of characters that a field shows, after a point. -/
def limit? : List Char → Option (Option Nat × List Char)
  | '.' :: rest =>
    let (digits, after) := rest.span Text.isDecimalDigit
    if digits.isEmpty then none else some (some (digitsValue digits), after)
  | chars => some (none, chars)

/-- The letters that end a field. -/
def conversions : List Char := "diouxefgcrsa%".toList

/-- A field at the head of a text, from its percent sign on, and what follows it. -/
def field? (chars : List Char) : Option (Field × List Char) := do
  match chars with
  | '%' :: '(' :: rest =>
    let (name, rest) := rest.span Text.isWord
    guard (!name.isEmpty)
    match rest with
    | ')' :: rest =>
      let (marks, rest) := rest.span "#0+ -".toList.contains
      let (digits, rest) := rest.span Text.isDecimalDigit
      let (limit, rest) ← limit? rest
      match rest with
      | c :: rest =>
        guard (conversions.contains c.toLower)
        some (⟨String.ofList name, marks.contains '-', digitsValue digits, limit, c⟩, rest)
      | [] => none
    | _ => none
  | _ => none

/-- A text has a field somewhere. -/
def hasField : List Char → Bool
  | [] => false
  | c :: rest => (field? (c :: rest)).isSome || hasField rest

/-- How entries are written: the format, and the layout of its time, if it has one of its
own. -/
structure Format where
  text : String
  dateLayout : String
  deriving Repr, DecidableEq

/-- A format shows the message alone when nothing else is said. -/
def Format.effective (format : Format) : List Char :=
  if format.text.isEmpty then "%(message)s".toList else format.text.toList

/-- A format that can be used. -/
def Format.isValid (format : Format) : Bool := hasField format.effective

/-- The time of an entry. -/
def Format.time (format : Format) (now : Time.Instant) : String :=
  if format.dateLayout.isEmpty then
    String.ofList (now.write "%Y-%m-%d %H:%M:%S,".toList) ++ now.fraction
  else String.ofList (now.write format.dateLayout.toList)

/-- The name of the thread that speaks. -/
def threadName : String := "MainThread"

/-- The value of a field. -/
def Format.value? (format : Format) (now : Time.Instant) (entry : Entry) :
    String → Option String
  | "levelname" => some entry.level.label
  | "levelno" => some (toString entry.level.rank)
  | "name" => some entry.channel
  | "message" => some entry.text
  | "threadName" => some threadName
  | "asctime" => some (format.time now)
  | _ => none

/-- A value with the padding of its field. -/
def Field.show (field : Field) (value : String) : List Char :=
  let whole := if field.conversion == 'r' then Text.Quoted.encode value else value
  let shown :=
    match field.limit with
    | some count => whole.toList.take count
    | none => whole.toList
  let padding := List.replicate (field.width - shown.length) ' '
  if field.toLeft then shown ++ padding else padding ++ shown

/-- Writes an entry from some place of a format on. -/
def Format.fill? (format : Format) (now : Time.Instant) (entry : Entry) :
    Nat → List Char → Option (List Char)
  | 0, _ | _, [] => some []
  | room + 1, '%' :: '%' :: rest => (format.fill? now entry room rest).map ('%' :: ·)
  | room + 1, c :: rest =>
    match field? (c :: rest) with
    | some (field, after) => do
      let value ← format.value? now entry field.name
      let more ← format.fill? now entry room after
      return field.show value ++ more
    | none => (format.fill? now entry room rest).map (c :: ·)

/-- An entry as a format shows it. -/
def Format.apply? (format : Format) (now : Time.Instant) (entry : Entry) : Option String :=
  let chars := format.effective
  (format.fill? now entry chars.length chars).map String.ofList

end ComponentAtlas.Log
