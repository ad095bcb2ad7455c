import ComponentAtlas.Component.Expansion
import ComponentAtlas.Component.Inventory
import ComponentAtlas.Component.Selection
import ComponentAtlas.Config.Validation
import ComponentAtlas.Crash
import ComponentAtlas.Pattern.Exclusion
import ComponentAtlas.Scan.Analysis
import ComponentAtlas.Time.Instant

/-!
# Scans

A scan validates its configuration, collects the source files below the directory that the
configuration names, analyses each of them, merges the analyses in the order of collection,
derives parents, and reports the components under a fragment of a path with their trees. Only
a directory that cannot be used stops it; files that cannot be analysed are skipped.

A scan says what it does as it goes. What it has said stands also when it stops. What parses
scripts is a parameter of it.
-/

namespace ComponentAtlas.Scan

open Component (Catalog Inventory)

/-- Why a scan stops. -/
inductive Stop where
  | inaccessible (directory : Inaccessible)
  | pattern (refusal : Pattern.Refusal)
  | interrupted
  | crashed (crash : Crash)
  deriving Repr

/-- The reason in words. There are none for some crashes. -/
def Stop.message : Stop → Except Crash String
  | .inaccessible directory => .ok directory.message
  | .pattern refusal => .ok refusal.message
  | .interrupted => .ok ""
  | .crashed crash => crash.message

/-- The reason with its kind, where it has one. -/
def Stop.account : Stop → String
  | .inaccessible directory => directory.message
  | .pattern refusal => refusal.message
  | .interrupted => ""
  | .crashed crash => crash.account

/-- The numbers of a scan. -/
structure Summary where
  rootDirectory : String
  baseDirectory : String
  filesCollected : Nat
  filesAnalyzed : Nat
  filesSkipped : Nat
  componentsDiscovered : Nat
  deriving Repr, DecidableEq

/-- What a scan gives. -/
structure Report where
  inventory : Inventory
  summary : Summary
  deriving Repr

/-- The result of a scan, with what it said. -/
structure Outcome where
  entries : List Log.Entry
  result : Except Stop Report

/-- An entry of the scan itself. -/
def say (level : Log.Level) (text : String) : Log.Entry := ⟨level, Log.Channel.scan, text⟩

/-! ## Parts of a scan -/

/-- The directory that a configuration has scanned. -/
def rootDirectory (env : Path.Environment) (config : Config) : String :=
  Path.resolve env (some config.inputPath) env.cwd

/-- The directory that paths are reported from: the scanned one, if there is no other. -/
def baseDirectory (env : Path.Environment) (config : Config) : String :=
  Path.resolve env (some config.basePath) (rootDirectory env config)

/-- What decides about names in a scan. -/
def choice (config : Config) : Except Pattern.Refusal Choice := do
  let patterns ← Pattern.compileAll config.excludePatterns
  return {
    excludes := Pattern.excludes (patterns.map (·.2))
    accepts := Path.hasExtension config.extensions }

/-- Merges analyses in order. -/
def mergeAll (analyses : List Analysis) : Catalog :=
  analyses.foldl (fun catalog analysis => catalog.merge analysis.findings) .empty

/-- What is said while analyses are made and merged in turn. -/
def mergeEntries : Catalog → List (Analysis × List Log.Entry) → List Log.Entry
  | _, [] => []
  | catalog, (analysis, entries) :: rest =>
    let skipped := analysis.failure.toList.map fun failure => say .warning failure.message
    entries ++ skipped ++ catalog.mergeEntries analysis.findings
      ++ mergeEntries (catalog.merge analysis.findings) rest

/-- The inventory of the components under a fragment of a path. -/
def inventoryOf (catalog : Catalog) (includePath : String) (now : Time.Instant) : Inventory :=
  let selected := catalog.select includePath
  { success := true
    generatedAt := now.stamp
    totalComponents := selected.size
    includePath
    components := selected.records
    roots := selected.roots
    trees := selected.trees }

/-- What is said at the end of a scan. -/
def finished (summary : Summary) (inventory : Inventory) : Log.Entry :=
  say .info (s!"Scan finished: {summary.filesAnalyzed} files analyzed, {summary.filesSkipped} "
    ++ s!"skipped, {summary.componentsDiscovered} components discovered, "
    ++ s!"{inventory.totalComponents} kept under '{inventory.includePath}'.")

/-! ## Scanning -/

section

variable (parser : Parser)

/-- The report on source files, with what is said on the way to it. -/
def report (disk : Disk) (env : Path.Environment) (now : Time.Instant) (config : Config)
    (files : List SourceFile) : Report × List Log.Entry :=
  let analyzed := files.map (analyzeFile parser disk config.conventions)
  let analyses := analyzed.map (·.1)
  let catalog := (mergeAll analyses).deriveParents
  let inventory := inventoryOf catalog config.includePath now
  let skipped := analyses.countP (·.failure.isSome)
  let summary : Summary :=
    { rootDirectory := rootDirectory env config
      baseDirectory := baseDirectory env config
      filesCollected := files.length
      filesAnalyzed := analyses.length - skipped
      filesSkipped := skipped
      componentsDiscovered := catalog.size }
  (⟨inventory, summary⟩,
    mergeEntries .empty analyzed
      ++ [(catalog.select config.includePath).treesEntry, finished summary inventory])

/-- Scans by a configuration that is valid. -/
def scan (disk : Disk) (env : Path.Environment) (now : Time.Instant) (config : Config) :
    Outcome :=
  let root := rootDirectory env config
  let start := say .info s!"Scanning components under: {root}"
  match choice config with
  | .error refusal => ⟨[start], .error (.pattern refusal)⟩
  | .ok choice =>
    match collect disk choice root (some (baseDirectory env config)) with
    | .error inaccessible => ⟨[start], .error (.inaccessible inaccessible)⟩
    | .ok (files, entries) =>
      let (report, more) := report parser disk env now config files
      ⟨start :: entries ++ more, .ok report⟩

/-- Scans by raw data, which is validated first. -/
def run (disk : Disk) (env : Path.Environment) (now : Time.Instant) (given : Json) : Outcome :=
  match Config.review env.cwd .lenient given with
  | .error refusal => ⟨Config.validationEntries given, .error (.crashed refusal.crash)⟩
  | .ok (config, warnings) =>
    let notes := warnings.map fun warning => say .warning s!"Configuration Warning: {warning}"
    let outcome := scan parser disk env now config
    { outcome with entries := Config.validationEntries given ++ notes ++ outcome.entries }

end

end ComponentAtlas.Scan
