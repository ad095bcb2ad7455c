import ComponentAtlas.Component.Record
import ComponentAtlas.Component.Tree

/-!
# Inventories

An inventory is what a scan reports: the components under a fragment of a path, the roots
among them, and the trees below the roots, with the time of the scan.
-/

namespace ComponentAtlas.Component

/-- The report of a scan. -/
structure Inventory where
  success : Bool
  generatedAt : String
  totalComponents : Nat
  includePath : String
  components : List Record
  roots : List String
  trees : List Tree
  deriving Repr

namespace Inventory

/-- The inventory as stored data. -/
def toJson (inventory : Inventory) : Json := .object [
  ("success", .bool inventory.success),
  ("generatedAt", .str inventory.generatedAt),
  ("totalComponents", .int inventory.totalComponents),
  ("filters", .object [("includePath", .str inventory.includePath)]),
  ("components", .list (inventory.components.map Record.toJson)),
  ("roots", .ofStrings inventory.roots),
  ("tree", .list (inventory.trees.map Tree.serialize))]

/-- The first component of a name. -/
def find? (inventory : Inventory) (name : String) : Option Record :=
  inventory.components.find? (·.name == name)

end Inventory

end ComponentAtlas.Component
