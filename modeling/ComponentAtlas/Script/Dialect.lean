import ComponentAtlas.Path.Resolution

/-!
# Dialects

There are two dialects of scripts. One has markup elements; in the other an opening angle bracket
before an expression is a type assertion. The name of a file tells its dialect: the typed
extensions without markup select type assertions, every other name markup.
-/

namespace ComponentAtlas.Script

/-- What an opening angle bracket before an expression means. -/
inductive Dialect where
  | markup
  | assertion
  deriving Repr, DecidableEq

namespace Dialect

/-- The extensions, in small letters, of scripts with type assertions. -/
def assertionExtensions : List String := [".ts", ".mts", ".cts"]

/-- The dialect of a file. Capitals in the extension do not matter. -/
def ofFileName (name : String) : Dialect :=
  let extension := (Path.extension name.toList).map Char.toLower
  if assertionExtensions.contains (String.ofList extension) then .assertion else .markup

/-- The name of the language of a dialect. -/
def label : Dialect → String
  | .markup => "tsx"
  | .assertion => "typescript"

end Dialect

end ComponentAtlas.Script
