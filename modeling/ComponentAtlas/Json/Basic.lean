import ComponentAtlas.Keyed
import ComponentAtlas.Number.Shortest

/-!
# JSON values

Objects keep the order in which their keys first appeared. Whole numbers and numbers with a
fraction or an exponent are told apart.
-/

namespace ComponentAtlas

/-- A JSON value. -/
inductive Json where
  | null
  | bool (value : Bool)
  | int (value : Int)
  | float (value : Number.Binary64)
  | str (value : String)
  | list (items : List Json)
  | object (fields : List (String × Json))
  deriving Repr, Inhabited

namespace Json

/-- The fields of an object. -/
abbrev Fields := Keyed Json

/-- The word for a value's kind. -/
def kindName : Json → String
  | .null => "NoneType"
  | .bool _ => "bool"
  | .int _ => "int"
  | .float _ => "float"
  | .str _ => "str"
  | .list _ => "list"
  | .object _ => "dict"

/-- A value that says something: neither null nor false, no zero, and not empty. -/
def isSubstantial : Json → Bool
  | .null => false
  | .bool value => value
  | .int value => value != 0
  | .float value => !value.isZero
  | .str value => !value.isEmpty
  | .list items => !items.isEmpty
  | .object fields => !fields.isEmpty

/-- A list of texts as a value. -/
def ofStrings (texts : List String) : Json := .list (texts.map .str)

end Json

end ComponentAtlas
