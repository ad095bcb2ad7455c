import ComponentAtlas.Log.Entry
import ComponentAtlas.Json.Basic
import ComponentAtlas.Text.Blank
import ComponentAtlas.Text.Digit

/-!
# Settings of the log

The settings say from which level on entries are written, where, and in which formats. A level
is given by its name; what names no level stands for the level of information.
-/

namespace ComponentAtlas.Log

/-- The capital of a letter in the name of a level. The dotless i has the plain capital. -/
def capital (c : Char) : Char := if c == 'ı' then 'I' else c.toUpper

/-- The level that a text names. Blanks around the name and the case of its letters do not
matter. -/
def Level.ofText (text : String) : Level :=
  match String.ofList ((Text.trim text).toList.map capital) with
  | "DEBUG" => .debug
  | "WARNING" | "WARN" => .warning
  | "ERROR" => .error
  | "CRITICAL" => .critical
  | _ => .info

/-- The whole number that a size is given as, if it is one or can be read as one. A fraction
is cut off. -/
def sizeOf? : Json → Option Int
  | .int value => some value
  | .bool value => some (if value then 1 else 0)
  | .float value => value.truncated?
  | .str text => Text.readInteger? text
  | _ => none

/-- How the log is to be set up. -/
structure Settings where
  level : Level
  console : Bool
  /-- The path of a file that entries are written to as well. -/
  logFile : Option String
  /-- The size from which on a file is rolled over. `none` stands for what is no size. -/
  maxBytes : Option Int
  /-- The number of older files that are kept. `none` stands for what is no number. -/
  backupCount : Option Int
  consoleFormat : String
  debugConsoleFormat : String
  fileFormat : String
  dateLayout : String
  deriving Repr, DecidableEq

/-- The settings in force when nothing else is said. -/
def Settings.standard : Settings :=
  { level := .info
    console := true
    logFile := none
    maxBytes := some (1024 * 1024)
    backupCount := some 3
    consoleFormat := "component-inventory: %(levelname)s: %(message)s"
    debugConsoleFormat :=
      "component-inventory: %(levelname)s [%(threadName)s] %(name)s: %(message)s"
    fileFormat := "%(asctime)s | %(levelname)s | %(threadName)s | %(name)s | %(message)s"
    dateLayout := "%Y-%m-%d %H:%M:%S" }

/-- The format of the console, which is fuller when everything is written. -/
def Settings.shownFormat (settings : Settings) : String :=
  if settings.level == .debug then settings.debugConsoleFormat else settings.consoleFormat

end ComponentAtlas.Log
