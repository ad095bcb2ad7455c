import ComponentAtlas.Component.Catalog
import ComponentAtlas.Component.Name
import ComponentAtlas.Log.Entry
import ComponentAtlas.Text.Quoted

/-!
# Registering components

The analysis of a file tells which components it defines and what each of them renders.
Analyses are merged into a catalog one after another. A component is known by its name
alone: when several files define it, the first one fixes its place, the last one its path,
and what it renders is gathered from all of them. Only capitalised names are registered.

Parents are derived when all analyses are merged. A rendered component that nobody defines
stays a child and gains no parent.
-/

namespace ComponentAtlas.Component

/-- A component that a file defines, with the components that it renders. -/
structure Usage where
  name : String
  children : List String
  deriving Repr, DecidableEq

/-- What the analysis of a file found. Usages of a failed analysis do not count. -/
structure Findings where
  relPath : String
  ok : Bool
  usages : List Usage
  deriving Repr, DecidableEq

/-- A name that a catalog was expected to hold and does not. -/
structure Unknown where
  name : String
  deriving Repr, DecidableEq

/-- An unknown name in words. -/
def Unknown.message (unknown : Unknown) : String := Text.Quoted.encode unknown.name

namespace Catalog

/-- Registers a component that a file defines. A component that is known already moves to the
file; a name that is no component's changes nothing. -/
def register (catalog : Catalog) (name filePath : String) : Catalog :=
  if isName name then
    match catalog.get? name with
    | none => catalog.set name (.solitary name filePath)
    | some _ => catalog.adjust name fun record => { record with filePath }
  else catalog

/-- What is to be said when a component is registered: that it moves to another file. -/
def redefinition? (catalog : Catalog) (name filePath : String) : Option Log.Entry := do
  let record ← catalog.get? name
  guard (isName name && record.filePath != filePath)
  return ⟨.debug, Log.Channel.registration,
    s!"Component '{name}' redefined in {filePath} (previously {record.filePath}); "
      ++ "keeping the latest."⟩

/-- Adds children to a registered component. -/
def addChildren (catalog : Catalog) (name : String) (children : List String) :
    Except Unknown Catalog :=
  if catalog.has name then .ok (catalog.adjust name (·.addChildren children))
  else .error ⟨name⟩

/-- Registers a component of a file with the components that it renders. -/
def addUsage (filePath : String) (catalog : Catalog) (usage : Usage) : Catalog :=
  if isName usage.name then
    (catalog.register usage.name filePath).adjust usage.name (·.addChildren usage.children)
  else catalog

/-- Merges the analysis of a file. -/
def merge (catalog : Catalog) (findings : Findings) : Catalog :=
  if findings.ok then findings.usages.foldl (addUsage findings.relPath) catalog else catalog

/-- The redefinitions that registering components of a file in turn brings about. -/
def redefinitions (filePath : String) : Catalog → List Usage → List Log.Entry
  | _, [] => []
  | catalog, usage :: rest =>
    (catalog.redefinition? usage.name filePath).toList
      ++ redefinitions filePath (catalog.addUsage filePath usage) rest

/-- What is to be said when the analysis of a file is merged. -/
def mergeEntries (catalog : Catalog) (findings : Findings) : List Log.Entry :=
  if findings.ok then catalog.redefinitions findings.relPath findings.usages else []

/-- Makes a record a parent of all that it renders. -/
def enterParent (catalog : Catalog) (record : Record) : Catalog :=
  record.children.foldl (fun acc child => acc.adjust child (·.addParent record.name)) catalog

/-- Makes the record that now stands under a key a parent of all that it renders. -/
def enterParentAt (catalog : Catalog) (key : String) : Catalog :=
  (catalog.get? key).elim catalog catalog.enterParent

/-- Makes every record a parent of all that it renders. The records are gone through one after the
other, and each is taken as it is when its turn comes. -/
def deriveParents (catalog : Catalog) : Catalog := catalog.keys.foldl enterParentAt catalog

end Catalog

end ComponentAtlas.Component
