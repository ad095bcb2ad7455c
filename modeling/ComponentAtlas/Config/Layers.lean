import ComponentAtlas.Config.Validation

/-!
# Layers of configuration

The defaults lie under a stored configuration, and both under the values that a command
line gives. A layer replaces values key by key. The command line reaches seven of the keys,
and a value that it does not give leaves the one below.
-/

namespace ComponentAtlas.Config

/-- The keys that a command line reaches. -/
def overridableKeys : List String := [
  "input_path", "base_path", "include_path", "extensions", "exclude_patterns",
  "include_nested_definitions", "max_workers"]

/-- A value that is given. -/
def isGiven : Json → Bool
  | .null => false
  | _ => true

/-- Lays the given values of a command line over other fields. -/
def merge (base overrides : Json.Fields) : Json.Fields :=
  overridableKeys.foldl (fun fields key =>
    match overrides.get? key with
    | some value => if isGiven value then fields.set key value else fields
    | none => fields) base

/-- Fields without those that a stored configuration has for itself. -/
def stored (defaults file : Json.Fields) : Json.Fields :=
  defaults.update (file.erase "version")

/-- Fields for the scan of a directory, whatever else they hold. -/
def forDirectory (fields : Json.Fields) (directory includePath : String) : Json.Fields :=
  (fields.set "input_path" (.str directory)).set "include_path" (.str includePath)

/-- What is stored for a configuration: its fields after the version. -/
def toStore (fields : Json.Fields) : Json.Fields :=
  Keyed.update [("version", .str currentVersion)] fields

end ComponentAtlas.Config
