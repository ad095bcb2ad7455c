/-!
# Log entries

An entry has a level of severity, a channel that tells which part of the program speaks, and
a text. Levels are ordered by rank.
-/

namespace ComponentAtlas.Log

/-- How severe an entry is. -/
inductive Level where
  | debug
  | info
  | warning
  | error
  | critical
  deriving Repr, DecidableEq

namespace Level

/-- The place of a level among the others; a higher one is more severe. -/
def rank : Level → Nat
  | debug => 10
  | info => 20
  | warning => 30
  | error => 40
  | critical => 50

/-- The level's name in formatted entries. -/
def label : Level → String
  | debug => "DEBUG"
  | info => "INFO"
  | warning => "WARNING"
  | error => "ERROR"
  | critical => "CRITICAL"

/-- A level at least as severe as another. -/
def reaches (level threshold : Level) : Bool := threshold.rank ≤ level.rank

end Level

/-- One message of the program. -/
structure Entry where
  level : Level
  channel : String
  text : String
  deriving Repr, DecidableEq

/-! ## Channels

Each part of the program speaks under a dotted name, which detailed formats print. -/

namespace Channel

/-- The command line. -/
def commandLine : String := "component_inventory.interface.cli.app"

/-- Loading and saving configurations. -/
def configuration : String := "component_inventory.domain.config"

/-- Validating configurations. -/
def validation : String := "component_inventory.core.pipeline.stages.validator"

/-- The course of a scan. -/
def scan : String := "component_inventory.core.pipeline.engine"

/-- Finding source files. -/
def collection : String := "component_inventory.core.services.scanner"

/-- Analysing one source file. -/
def analysis : String := "component_inventory.core.pipeline.stages.worker"

/-- Registering components. -/
def registration : String := "component_inventory.core.analysis.graph_builder"

/-- Building trees. -/
def trees : String := "component_inventory.core.analysis.tree_generator"

/-- Reporting what nobody caught. -/
def supervision : String := "component_inventory.supervisor"

end Channel

end ComponentAtlas.Log
