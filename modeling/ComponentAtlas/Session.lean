import ComponentAtlas.Log.Logging
import ComponentAtlas.Log.Rotation
import ComponentAtlas.Log.Settings

/-!
# Sessions

A session is a run of the program: the disk that it works on, the state of its log, and what
it has written so far to its standard streams. What the listener of the log writes is kept
apart from what the program itself writes to the stream for errors.
-/

namespace ComponentAtlas

/-- A run of the program. -/
structure Session where
  disk : Disk
  logging : Log.Logging
  now : Time.Instant
  /-- What was printed. -/
  output : String
  /-- What was written to the stream for errors. -/
  errors : String
  /-- What the listener of the log wrote to the stream for errors. -/
  journal : String
  deriving Repr

namespace Session

/-- A session at its beginning. -/
def start (disk : Disk) (now : Time.Instant) : Session := ⟨disk, .initial, now, "", "", ""⟩

/-- A step of a session. -/
abbrev Step := StateM Session

/-- Prints a line. -/
def print (line : String) : Step Unit :=
  modify fun session => { session with output := session.output ++ line ++ "\n" }

/-- Writes a line to the stream for errors. -/
def complain (line : String) : Step Unit :=
  modify fun session => { session with errors := session.errors ++ line ++ "\n" }

/-- Carries an action on the disk out. -/
def onDisk {ε α : Type} (action : ExceptT ε (StateM Disk) α) : Step (Except ε α) := do
  let session ← get
  let (result, disk) := action.run session.disk
  set { session with disk }
  return result

/-! ## Logging -/

/-- The format of entries that are written directly. -/
def directFormat : Log.Format :=
  ⟨"component-inventory (fallback) | %(levelname)s | %(message)s", ""⟩

/-- Writes an entry where it arrives. -/
def deliver (entry : Log.Entry) : Log.Logging.Delivery → Step Unit
  | .lastResort => complain entry.text
  | .direct => do
    match directFormat.apply? (← get).now entry with
    | some line => complain line
    | none => pure ()
  | .sink (.console _ format) => do
    match format.apply? (← get).now entry with
    | some line => modify fun session => { session with journal := session.journal ++ line ++ "\n" }
    | none => pure ()
  | .sink (.file _ format path maxBytes backupCount) => do
    match format.apply? (← get).now entry with
    | some line => discard (onDisk (Log.writeLine path line maxBytes backupCount))
    | none => pure ()

/-- Logs an entry. -/
def log (entry : Log.Entry) : Step Unit := do
  ((← get).logging.deliveries entry).forM (deliver entry)

/-- Logs entries in turn. -/
def logAll (entries : List Log.Entry) : Step Unit := entries.forM log

/-- What comes of opening a log file: a sink, a refusal by the disk, or a failure to set it
up. -/
inductive Opening where
  | opened (sink : Log.Sink)
  | refused (fault : Disk.Fault)
  | failed

/-- Opens a log file for a level. Its directory is made before its limits are looked at. -/
def openLogFile (settings : Log.Settings) (path : String) : Step Opening := do
  let disk := (← get).disk
  match ← onDisk (Disk.makeDirectories (disk.outerDirectory path)) with
  | .error fault => return .refused fault
  | .ok () =>
    match settings.maxBytes, settings.backupCount with
    | some maxBytes, some backupCount =>
      let whole := String.ofList (Path.absolute disk.cwd.toList path.toList)
      match ← onDisk (Disk.appendFile whole []) with
      | .error fault => return .refused fault
      | .ok () =>
        let format : Log.Format := ⟨settings.fileFormat, settings.dateLayout⟩
        return .opened (.file settings.level format whole maxBytes backupCount)
    | _, _ => return .failed

/-- The sink of the console, if it is wanted. A format without fields is a failure. -/
def consoleSinks (settings : Log.Settings) : Option (List Log.Sink) :=
  let format : Log.Format := ⟨settings.shownFormat, ""⟩
  if !settings.console then some []
  else if format.isValid then some [.console settings.level format]
  else none

/-- The sink of the log file, if one is wanted. A file that the disk refuses is reported and
left out. -/
def fileSinks (settings : Log.Settings) : Step (Option (List Log.Sink)) := do
  match settings.logFile.filter (!·.isEmpty) with
  | none => return some []
  | some path =>
    if !(Log.Format.isValid ⟨settings.fileFormat, settings.dateLayout⟩) then return none
    match ← openLogFile settings path with
    | .opened sink => return some [sink]
    | .refused fault =>
      complain s!"WARNING: Cannot open log file '{path}': {fault.message}"
      return some []
    | .failed => return none

/-- The sinks that the settings ask for, or nothing if they cannot be built. -/
def buildSinks (settings : Log.Settings) : Step (Option (List Log.Sink)) := do
  match consoleSinks settings with
  | none => return none
  | some console => return (← fileSinks settings).map (console ++ ·)

/-- What is said when the log could not be set up. -/
def setupWarning : Log.Entry :=
  ⟨.warning, "root", "Logging setup failed; writing diagnostics directly to stderr."⟩

/-- Sets the log up. -/
def configureLogging (settings : Log.Settings) (force : Bool) : Step Unit := do
  if (← get).logging.isSettled force then return
  let built ← buildSinks settings
  modify fun session =>
    { session with logging := session.logging.configure settings.level force built }
  if built.isNone then log setupWarning

/-- Stops the listener of the log. -/
def shutdownLogging : Step Unit :=
  modify fun session => { session with logging := session.logging.shutdown }

end Session

end ComponentAtlas
