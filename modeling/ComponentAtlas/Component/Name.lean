/-!
# Component names

A component is told from other bindings by a leading capital letter. Only the letters
`A` to `Z` count: a capital of another alphabet names no component.
-/

namespace ComponentAtlas.Component

/-- A name that starts with one of the letters `A` to `Z`. -/
def isName (name : String) : Bool :=
  match name.toList with
  | first :: _ => 'A' ≤ first && first ≤ 'Z'
  | [] => false

/-- The empty text names nothing. -/
theorem isName_empty : isName "" = false := by decide

end ComponentAtlas.Component
