import ComponentAtlas.Json.Basic
import ComponentAtlas.Syntax.Conventions

/-!
# Configurations

A configuration fixes where a scan looks, which files and components it keeps, and by which
names definitions are recognised. As stored data it is an object with ten known keys in a
fixed order.
-/

namespace ComponentAtlas

/-- A complete configuration. -/
structure Config where
  inputPath : String
  basePath : String
  includePath : String
  extensions : List String
  excludePatterns : List String
  includeNested : Bool
  refForwardingWrappers : List String
  frameworkNamespaces : List String
  componentBaseClasses : List String
  maxWorkers : Nat
  deriving Repr, DecidableEq

namespace Config

/-- The version that stored configurations carry. -/
def currentVersion : String := "1.0.0"

/-- The directory of the components that are reported when nothing else is configured. -/
def defaultIncludePath : String := "components/ui/"

/-- The extensions of source files when nothing else is configured. -/
def defaultExtensions : List String := [".js", ".jsx", ".ts", ".tsx"]

/-- The patterns of excluded names when nothing else is configured: hidden entries, test
fixtures, dependencies and the files of component playgrounds. -/
def defaultExcludePatterns : List String :=
  ["^\\.", "^__tests__$", "^node_modules$", "\\.stories\\.", "\\.ladle"]

/-- The configuration in force when nothing is configured. -/
def standard (cwd : String) : Config :=
  { inputPath := cwd
    basePath := ""
    includePath := defaultIncludePath
    extensions := defaultExtensions
    excludePatterns := defaultExcludePatterns
    includeNested := false
    refForwardingWrappers := Syntax.Conventions.defaultWrappers
    frameworkNamespaces := Syntax.Conventions.defaultNamespaces
    componentBaseClasses := Syntax.Conventions.defaultBaseClasses
    maxWorkers := 1 }

/-- The known keys with their values, in the order in which they are stored. -/
def toFields (config : Config) : Json.Fields := [
  ("input_path", .str config.inputPath),
  ("base_path", .str config.basePath),
  ("include_path", .str config.includePath),
  ("extensions", .ofStrings config.extensions),
  ("exclude_patterns", .ofStrings config.excludePatterns),
  ("include_nested_definitions", .bool config.includeNested),
  ("ref_forwarding_wrappers", .ofStrings config.refForwardingWrappers),
  ("framework_namespaces", .ofStrings config.frameworkNamespaces),
  ("component_base_classes", .ofStrings config.componentBaseClasses),
  ("max_workers", .int config.maxWorkers)]

/-- The known keys. -/
def knownKeys : List String := (standard "").toFields.keys

/-- The names by which a configuration recognises definitions. -/
def conventions (config : Config) : Syntax.Conventions :=
  { refForwardingWrappers := config.refForwardingWrappers
    frameworkNamespaces := config.frameworkNamespaces
    componentBaseClasses := config.componentBaseClasses
    includeNested := config.includeNested }

end Config

end ComponentAtlas
