import ComponentAtlas.Component.Catalog
import ComponentAtlas.Path.Resolution

/-!
# Selecting components by path

A fragment of a path selects the components whose file lies under it. The fragment has to
start where a segment of the file's path starts, and may end inside a segment. In the
selection, edges lead to selected components only.
-/

namespace ComponentAtlas.Component

/-- A text occurs somewhere in another. -/
def occursIn (fragment : List Char) : List Char → Bool
  | [] => fragment.isEmpty
  | c :: rest => fragment.isPrefixOf (c :: rest) || occursIn fragment rest

/-- A path with forward slashes and exactly one of them in front. -/
def rooted (path : String) : List Char :=
  '/' :: (Path.toPosix path).toList.dropWhile (· == '/')

/-- The file of a component lies under a fragment of a path. A component without a file lies
nowhere. -/
def Record.liesUnder (includePath : String) (record : Record) : Bool :=
  !record.filePath.isEmpty && occursIn (rooted includePath) (rooted record.filePath)

/-- The components under a fragment of a path, with the edges among them. -/
def Catalog.select (catalog : Catalog) (includePath : String) : Catalog :=
  let kept := catalog.filter (·.liesUnder includePath)
  kept.map (·.restrict kept.has)

end ComponentAtlas.Component
