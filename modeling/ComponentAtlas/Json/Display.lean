import ComponentAtlas.Json.Basic
import ComponentAtlas.Text.Digit
import ComponentAtlas.Text.Quoted

/-!
# Values in messages

Messages show values in a notation of their own: texts are quoted, truth values are
capitalised, lists and objects are written on one line. A message may also show a value
plainly, which differs only in that a text stands without its quotes. A value cannot be shown if
it holds an integer with too many digits.
-/

namespace ComponentAtlas.Json

mutual

/-- The value with its texts quoted. -/
def quoted? : Json → Option String
  | .null => some "None"
  | .bool true => some "True"
  | .bool false => some "False"
  | .int value => Text.writeInteger? value
  | .float value => some (value.render "inf" "nan")
  | .str value => some (Text.Quoted.encode value)
  | .list items => do return "[" ++ ", ".intercalate (← quotedItems? items) ++ "]"
  | .object fields => do return "\x7b" ++ ", ".intercalate (← quotedFields? fields) ++ "\x7d"

/-- Each value of a list, quoted. -/
def quotedItems? : List Json → Option (List String)
  | [] => some []
  | item :: rest => do return (← quoted? item) :: (← quotedItems? rest)

/-- Each field of an object, key and value quoted. -/
def quotedFields? : List (String × Json) → Option (List String)
  | [] => some []
  | (key, value) :: rest => do
    let shown ← quoted? value
    return (Text.Quoted.encode key ++ ": " ++ shown) :: (← quotedFields? rest)

end

/-- The value as a message shows it plainly. -/
def plain? : Json → Option String
  | .str value => some value
  | value => value.quoted?

/-- A list of texts in the notation of messages. -/
def quotedTexts (texts : List String) : String :=
  "[" ++ ", ".intercalate (texts.map Text.Quoted.encode) ++ "]"

/-- Texts hold no integers and can always be shown. -/
theorem quoted?_ofStrings (texts : List String) :
    (ofStrings texts).quoted? = some (quotedTexts texts) := by
  have items : quotedItems? (texts.map .str) = some (texts.map Text.Quoted.encode) := by
    induction texts with
    | nil => rfl
    | cons text rest ih => simp [quotedItems?, quoted?, ih]
  simp [ofStrings, quoted?, items, quotedTexts]

end ComponentAtlas.Json
