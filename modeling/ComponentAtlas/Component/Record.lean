import ComponentAtlas.Component.Distinct
import ComponentAtlas.Json.Basic

/-!
# Component records

What is known of one component: its name, the file that defines it, the components that it
renders and the components that render it.
-/

namespace ComponentAtlas.Component

/-- A component with its neighbours. -/
structure Record where
  name : String
  filePath : String
  children : List String
  parents : List String
  deriving Repr, DecidableEq

namespace Record

/-- A component without neighbours. -/
def solitary (name filePath : String) : Record := ⟨name, filePath, [], []⟩

/-- Adds a component that is rendered, unless it is known already. -/
def addChild (record : Record) (name : String) : Record :=
  { record with children := insertNew record.children name }

/-- Adds components that are rendered, each unless it is known already. -/
def addChildren (record : Record) (names : List String) : Record :=
  { record with children := insertAll record.children names }

/-- Adds a component that renders this one, unless it is known already. -/
def addParent (record : Record) (name : String) : Record :=
  { record with parents := insertNew record.parents name }

/-- Drops the neighbours that are not to be kept. -/
def restrict (keep : String → Bool) (record : Record) : Record :=
  { record with children := record.children.filter keep, parents := record.parents.filter keep }

/-- The record as stored data. -/
def toJson (record : Record) : Json := .object [
  ("name", .str record.name),
  ("filePath", .str record.filePath),
  ("children", .ofStrings record.children),
  ("parents", .ofStrings record.parents)]

end Record

end ComponentAtlas.Component
