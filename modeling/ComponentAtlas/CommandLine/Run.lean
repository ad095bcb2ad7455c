import ComponentAtlas.CommandLine.Arguments
import ComponentAtlas.CommandLine.Help
import ComponentAtlas.Config.Storage
import ComponentAtlas.Scan.Report
import ComponentAtlas.Component.Rendering
import ComponentAtlas.Session

/-!
# Runs from the command line

A run reads its arguments, sets the log up, lays the configuration together, scans, and writes
what was asked for. What the run prints is a report; what goes wrong is told on the stream for
errors. The log is shut down at the end, however the run ends, and it may end in a crash: over
an integer with too many digits in a stored configuration, say.

The scan itself is a parameter, so that what a run does with a scan that stops can be told
for every reason to stop.
-/

namespace ComponentAtlas.CommandLine

open Session (Step print complain onDisk log logAll)

/-- What carries a scan out, given the disk, the environment, the time and a configuration. -/
abbrev Scanner := Disk → Path.Environment → Time.Instant → Json → Scan.Outcome

/-- How a run ends whose arguments are understood. -/
inductive ExitCode where
  | success
  | failure
  | inaccessible
  | interrupted
  deriving Repr, DecidableEq

/-- The number that stands for the end of a run. -/
def ExitCode.number : ExitCode → Nat
  | success => 0
  | failure => 1
  | inaccessible => 2
  | interrupted => 130

/-- How a run ends. -/
inductive Ending where
  | finished (code : ExitCode)
  | help
  | refused (refusal : Refusal)
  | crashed (crash : Crash)
  deriving Repr

/-- The number that stands for the end of a run. -/
def Ending.number : Ending → Nat
  | finished code => code.number
  | help => 0
  | refused _ => 2
  | crashed _ => 1

/-- A step of a run that may crash. -/
abbrev Attempt := ExceptT Crash Step

/-- An entry of the run itself. -/
def say (level : Log.Level) (text : String) : Step Unit :=
  log ⟨level, Log.Channel.commandLine, text⟩

/-! ## Configuration -/

/-- The log as the arguments want it. -/
def Arguments.logSettings (arguments : Arguments) : Log.Settings :=
  { Log.Settings.standard with
    level := if arguments.debug then .debug else .info
    logFile := arguments.logFile }

/-- A path that is given and is not empty. -/
def wanted (path : Option String) : Option String := path.filter (!·.isEmpty)

/-- The fields that lie under the arguments: those of a stored configuration, or the
defaults. -/
def baseFields (arguments : Arguments) : Attempt Json.Fields := do
  let disk := (← get).disk
  match wanted arguments.configFile with
  | some path =>
    let (fields, entries) ← Config.load disk path
    logAll entries
    return fields
  | none => return (Config.standard disk.cwd).toFields

/-- The configuration that the arguments and what lies under them come to. -/
def configuration (arguments : Arguments) : Attempt Config := do
  let raw := Json.object (Config.merge (← baseFields arguments) arguments.overrides)
  let reviewed := Config.review (← get).disk.cwd .lenient raw
  logAll (Config.validationEntries raw)
  let (config, warnings) ← reviewed.mapError Config.Refusal.crash
  for warning in warnings do say .warning s!"Configuration Constraint: {warning}"
  return config

/-- Saves a configuration, if that is wanted. -/
def saveConfiguration (arguments : Arguments) (config : Config) : Attempt Unit := do
  match wanted arguments.saveConfigFile with
  | some path =>
    let outcome ← liftM (onDisk (Config.writeStored config.toFields path))
    log (← Config.savedEntry path outcome)
  | none => pure ()

/-! ## Reports -/

/-- The value as it is printed. -/
def written (value : Json) : Except Crash String :=
  (value.render 2).mapError fun _ => Crash.tooLongToWrite

/-- A report for people. -/
def summaryLines (report : Scan.Report) : List String :=
  let inventory := report.inventory
  let roots := if inventory.roots.isEmpty then "(none)" else ", ".intercalate inventory.roots
  ["Component inventory generated.",
    s!"Include path: {inventory.includePath}",
    s!"Components: {inventory.totalComponents}",
    s!"Roots: {roots}",
    s!"Files analyzed: {report.summary.filesAnalyzed}",
    s!"Files skipped: {report.summary.filesSkipped}",
    s!"Components discovered (unfiltered): {report.summary.componentsDiscovered}"]

/-- Stores lines in a file, if that is wanted, and says what was stored. -/
def store (path : Option String) (lines : Except Crash (List String)) (what : String) :
    ExceptT Disk.StoreFault Attempt Unit := do
  match wanted path with
  | some path =>
    let lines ← lines
    ExceptT.mk (liftM (onDisk (Disk.storeLines path lines)))
    say .info s!"{what} saved to file: {path}"
  | none => pure ()

/-- Tells what a run has found. -/
def present (arguments : Arguments) (report : Scan.Report) : Attempt ExitCode := do
  let payload := written report.inventory.toJson
  let treeLines := Component.Tree.draw true report.inventory.trees
  let stored ← ExceptT.run do
    store arguments.outputFile (payload.map ([·])) "Inventory"
    store arguments.treeFile (.ok treeLines) "Component tree"
  match stored with
  | .error fault =>
    say .error s!"Failed to write output: {fault.message}"
    complain s!"ERROR: Failed to write output: {fault.message}"
    return .failure
  | .ok () =>
    if arguments.jsonOutput then print (← payload)
    else for line in summaryLines report do print line
    if arguments.printTree then print ("\n".intercalate treeLines)
    return .success

/-- Tells why a scan has stopped. -/
def excuse (stop : Scan.Stop) : Attempt ExitCode := do
  match stop with
  | .inaccessible directory =>
    say .error directory.message
    complain s!"ERROR: {directory.message}"
    return .inaccessible
  | .interrupted =>
    say .warning "Scan interrupted by user."
    complain "Interrupted."
    return .interrupted
  | _ =>
    let message ← stop.message
    say .critical
      s!"Scan failed: {message}\nTraceback (most recent call last):\n{stop.account}"
    complain s!"ERROR: Scan failed: {message}"
    return .failure

/-! ## Running -/

/-- Does what the arguments ask for, while the log is up. -/
def execute (scanner : Scanner) (env : Path.Environment) (arguments : Arguments) :
    Attempt ExitCode := do
  say .debug "CLI execution initiated. Resolving configuration hierarchy..."
  let config ← configuration arguments
  let raw := Json.object config.toFields
  if arguments.dumpConfig then
    print (← written raw)
    return .success
  saveConfiguration arguments config
  let session ← get
  let outcome := scanner session.disk env session.now raw
  logAll outcome.entries
  match outcome.result with
  | .ok report => present arguments report
  | .error stop => excuse stop

/-- Does what a command line asks for. -/
def run (scanner : Scanner) (env : Path.Environment) (texts : List String) : Step Ending := do
  match read texts with
  | .help =>
    helpLines.forM print
    return .help
  | .refused refusal =>
    complain usageLine
    complain s!"{programName}: error: {refusal.message}"
    return .refused refusal
  | .arguments arguments =>
    Session.configureLogging arguments.logSettings true
    let outcome ← (execute scanner env arguments).run
    Session.shutdownLogging
    match outcome with
    | .ok code => return .finished code
    | .error crash => return .crashed crash

end ComponentAtlas.CommandLine
