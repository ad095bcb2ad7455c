import ComponentAtlas.Disk.Basic
import ComponentAtlas.Text.Newline
import ComponentAtlas.Text.Utf8

/-!
# Texts on a disk

A file is read as text by decoding its bytes and unifying the ends of its lines.
-/

namespace ComponentAtlas.Disk

/-- Why a file is not read as text. -/
inductive ReadFault where
  | disk (fault : Fault)
  | decoding (report : Text.Utf8.Report)
  deriving Repr, DecidableEq

/-- The fault in words. -/
def ReadFault.message : ReadFault → String
  | .disk fault => fault.message
  | .decoding report => report.message

/-- The text that bytes hold. -/
def textOf (bytes : List UInt8) : Except ReadFault String :=
  match Text.Utf8.decode bytes with
  | .ok text => .ok (String.ofList (Text.unifyNewlines text.toList))
  | .error report => .error (.decoding report)

/-- The text that a file holds. -/
def readText (disk : Disk) (path : String) : Except ReadFault String :=
  match disk.readBytes path with
  | .ok bytes => textOf bytes
  | .error fault => .error (.disk fault)

/-- The text that a file holds after a byte order mark, if it starts with one. Positions in a
report count from there. -/
def readMarkedText (disk : Disk) (path : String) : Except ReadFault String :=
  match disk.readBytes path with
  | .ok bytes => textOf (Text.Utf8.dropByteOrderMark bytes)
  | .error fault => .error (.disk fault)

/-- Makes a file hold a text. -/
def writeText (path text : String) : Action Unit := writeFile path (Text.Utf8.encode text)

/-- Why lines are not stored. -/
inductive StoreFault where
  | directory (path : String) (fault : Fault)
  | file (fault : Fault)
  deriving Repr, DecidableEq

/-- The fault in words. -/
def StoreFault.message : StoreFault → String
  | .directory path fault => s!"Cannot create output directory '{path}': {fault.message}"
  | .file fault => fault.message

/-- Lines as a stored text: each ends in a line feed, and no lines at all are one that is
empty. -/
def joinLines (lines : List String) : String := "\n".intercalate lines ++ "\n"

/-- Stores lines in a file, and makes the directory of the file with its parents. -/
def storeLines (path : String) (lines : List String) : ExceptT StoreFault (StateM Disk) Unit := do
  let outer := (← get).outerDirectory path
  match ← (makeDirectories outer).run with
  | .error fault => throw (.directory (String.ofList outer) fault)
  | .ok () =>
    match ← (writeText path (joinLines lines)).run with
    | .error fault => throw (.file fault)
    | .ok () => pure ()

end ComponentAtlas.Disk
