/-!
# Framework conventions

The names by which a framework's definitions are recognised: calls that forward a
reference to the function in their first argument, namespaces that may qualify a
framework name, and the classes that a component may extend.
-/

namespace ComponentAtlas.Syntax

/-- The framework names that a classification goes by, and whether it looks below the
top level of a module. -/
structure Conventions where
  refForwardingWrappers : List String
  frameworkNamespaces : List String
  componentBaseClasses : List String
  includeNested : Bool
  deriving Repr, DecidableEq

namespace Conventions

/-- The wrapper calls known without configuration. -/
def defaultWrappers : List String := ["forwardRef"]

/-- The namespaces known without configuration. -/
def defaultNamespaces : List String := ["React"]

/-- The base classes known without configuration. -/
def defaultBaseClasses : List String := ["Component", "PureComponent"]

/-- The conventions in force when nothing is configured. -/
def standard : Conventions :=
  ⟨defaultWrappers, defaultNamespaces, defaultBaseClasses, false⟩

end Conventions

end ComponentAtlas.Syntax
