import ComponentAtlas.Json.Basic
import ComponentAtlas.Text.Digit

/-!
# Printing JSON

A value is printed with each item on a line of its own, indented by a number of spaces for
every enclosing list or object; an empty one stays on its line. Characters outside ASCII
stand for themselves. Only the quote, the backslash and the control characters below the
space are escaped.

A whole number with too many digits cannot be printed. Printing goes from left to right and
breaks off at the first such number, and what was printed before it has been printed.
-/

namespace ComponentAtlas.Json.Printer

/-- How a character is written inside quotes. -/
def escape (c : Char) : List Char :=
  if c == '"' then ['\\', '"']
  else if c == '\\' then ['\\', '\\']
  else if c == '\n' then ['\\', 'n']
  else if c == '\r' then ['\\', 'r']
  else if c == '\t' then ['\\', 't']
  else if c == '\x08' then ['\\', 'b']
  else if c == '\x0C' then ['\\', 'f']
  else if c.toNat < 0x20 then
    ['\\', 'u', '0', '0', Nat.digitChar (c.toNat / 16), Nat.digitChar (c.toNat % 16)]
  else [c]

/-- A text in quotes. -/
def text (s : String) : String := String.ofList ('"' :: s.toList.flatMap escape ++ ['"'])

/-- A line break and the indentation of a level. -/
def newline (indent level : Nat) : String :=
  "\n" ++ String.ofList (List.replicate (indent * level) ' ')

/-- Items between brackets, each on its own line. -/
def block (indent level : Nat) (opening closing : String) (items : List String) : String :=
  if items.isEmpty then opening ++ closing
  else
    opening ++ newline indent (level + 1) ++
      ("," ++ newline indent (level + 1)).intercalate items ++ newline indent level ++ closing

mutual

/-- A value whose first line stands at `level`. -/
def value (indent level : Nat) : Json → String
  | .null => "null"
  | .bool true => "true"
  | .bool false => "false"
  | .int i => toString i
  | .float x => x.render "Infinity" "NaN"
  | .str s => text s
  | .list found => block indent level "[" "]" (items indent (level + 1) found)
  | .object found => block indent level "\x7b" "\x7d" (fields indent (level + 1) found)

/-- The items of a list. -/
def items (indent level : Nat) : List Json → List String
  | [] => []
  | item :: rest => value indent level item :: items indent level rest

/-- The fields of an object. -/
def fields (indent level : Nat) : List (String × Json) → List String
  | [] => []
  | (key, item) :: rest =>
    (text key ++ ": " ++ value indent level item) :: fields indent level rest

end

/-! ## Numbers that are too long -/

mutual

/-- No whole number in the value has too many digits. -/
def isWritable : Json → Bool
  | .int i => Text.isShort i
  | .list found => areItemsWritable found
  | .object found => areFieldsWritable found
  | _ => true

/-- No whole number in the items of a list has too many digits. -/
def areItemsWritable : List Json → Bool
  | [] => true
  | item :: rest => isWritable item && areItemsWritable rest

/-- No whole number in the fields of an object has too many digits. -/
def areFieldsWritable : List (String × Json) → Bool
  | [] => true
  | (_, item) :: rest => isWritable item && areFieldsWritable rest

end

/-- A list or an object. What separates it from what stands before is printed by itself; any other
item of a list is printed at once with what separates it. -/
def isNested : Json → Bool
  | .list _ | .object _ => true
  | _ => false

mutual

/-- What is printed of a value before its first whole number with too many digits, in the
layout of a value whose first line stands at `level`. -/
def before (indent level : Nat) : Json → String
  | .list found =>
    let opening := "[" ++ newline indent (level + 1)
    beforeItems indent (level + 1) opening found
  | .object found =>
    "\x7b" ++ newline indent (level + 1) ++ beforeFields indent (level + 1) found
  | _ => ""

/-- What is printed of the items of a list, after the text that separates the first of them from
what stands before. -/
def beforeItems (indent level : Nat) (separator : String) : List Json → String
  | [] => ""
  | item :: rest =>
    if isWritable item then
      separator ++ value indent level item
        ++ beforeItems indent level ("," ++ newline indent level) rest
    else if isNested item then separator ++ before indent level item
    else ""

/-- What is printed of the fields of an object. -/
def beforeFields (indent level : Nat) : List (String × Json) → String
  | [] => ""
  | (key, item) :: rest =>
    let name := text key ++ ": "
    if isWritable item then
      name ++ value indent level item ++ "," ++ newline indent level
        ++ beforeFields indent level rest
    else name ++ before indent level item

end

end ComponentAtlas.Json.Printer

namespace ComponentAtlas.Json

/-- A value as text, every level indented by `indent` spaces, or what was printed when printing
broke off. -/
def render (indent : Nat) (json : Json) : Except String String :=
  if Printer.isWritable json then .ok (Printer.value indent 0 json)
  else .error (Printer.before indent 0 json)

end ComponentAtlas.Json
