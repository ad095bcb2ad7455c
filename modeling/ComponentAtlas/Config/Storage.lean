import ComponentAtlas.Config.Layers
import ComponentAtlas.Disk.Text
import ComponentAtlas.Json.Printer
import ComponentAtlas.Json.Reader

/-!
# Stored configurations

A configuration is stored as an object with its version. Loading lays the fields of a stored
object over the defaults; what cannot be loaded is reported, and the defaults stand. Saving
makes the directory of the file with its parents.

An integer with too many digits is not among what is reported. Loading a file that holds one
crashes, and so does saving one, after what stands before it has been written.
-/

namespace ComponentAtlas.Config

/-- Why a stored configuration is not loaded. -/
inductive LoadFault where
  | missing
  | unreadable (fault : Disk.ReadFault)
  | malformed (fault : Json.ParseError)
  | noObject

/-- What is said of a configuration that is not loaded. -/
def LoadFault.entry (path : String) : LoadFault → Log.Entry
  | missing => ⟨.warning, Log.Channel.configuration,
      s!"Config file not found: {path}. Using defaults."⟩
  | unreadable fault => ⟨.error, Log.Channel.configuration,
      s!"Failed to load config '{path}': {fault.message}. Using defaults."⟩
  | malformed fault => ⟨.error, Log.Channel.configuration,
      s!"Failed to load config '{path}': {fault.message}. Using defaults."⟩
  | noObject => ⟨.warning, Log.Channel.configuration,
      s!"Corrupted config file '{path}'. Using defaults."⟩

/-- The fields of a stored configuration, or why it is not loaded. -/
def readStored (disk : Disk) (path : String) : Except Crash (Except LoadFault Json.Fields) :=
  if !disk.holds path then .ok (.error .missing)
  else
    match disk.readText path with
    | .error fault => .ok (.error (.unreadable fault))
    | .ok text =>
      match Json.parse text with
      | .error (.malformed fault) => .ok (.error (.malformed fault))
      | .error (.tooLong digits) => .error (Crash.tooLongToRead digits)
      | .ok (.object fields) => .ok (.ok fields)
      | .ok _ => .ok (.error .noObject)

/-- What is said of a version that is another one. No version at all is passed over. -/
def versionRemark (fields : Json.Fields) : Except Crash (List Log.Entry) :=
  match fields.get? "version" with
  | none => .ok []
  | some version =>
    if !version.isSubstantial then .ok []
    else
      match version.plain? with
      | none => .error Crash.tooLongToWrite
      | some shown =>
        if shown == currentVersion then .ok []
        else .ok [⟨.debug, Log.Channel.configuration,
          s!"Config version {shown} differs from {currentVersion}."⟩]

/-- The fields that a stored configuration and the defaults give, and what is said of it. -/
def load (disk : Disk) (path : String) : Except Crash (Json.Fields × List Log.Entry) := do
  let defaults := (standard disk.cwd).toFields
  match ← readStored disk path with
  | .error fault => return (defaults, [fault.entry path])
  | .ok fields => return (stored defaults fields, ← versionRemark fields)

/-- Writes fields to a file. When an integer breaks the writing off, the file holds what stands
before it. -/
def writeStored (fields : Json.Fields) (path : String) : Disk.Action (Except Crash Unit) := do
  Disk.makeDirectories ((← get).outerDirectory path)
  match (Json.object (toStore fields)).render 4 with
  | .ok text =>
    Disk.writeText path text
    return .ok ()
  | .error part =>
    Disk.writeText path part
    return .error Crash.tooLongToWrite

/-- What is said of saving a configuration, unless it crashes. -/
def savedEntry (path : String) : Except Disk.Fault (Except Crash Unit) → Except Crash Log.Entry
  | .ok (.ok ()) => .ok ⟨.debug, Log.Channel.configuration, s!"Configuration saved to {path}"⟩
  | .ok (.error crash) => .error crash
  | .error fault => .ok ⟨.error, Log.Channel.configuration,
      s!"Failed to save configuration: {fault.message}"⟩

end ComponentAtlas.Config
