import ComponentAtlas.Disk.Text

/-!
# Rolling log files

A log file that has grown too large is set aside before the next line is written. Older
files get numbers, the latest the number one, and only so many of them are kept. When none is
kept the file just goes on growing.
-/

namespace ComponentAtlas.Log

open Disk (Action)

/-- The name of an older file. -/
def olderPath (path : String) (number : Nat) : String := s!"{path}.{number}"

/-- Moves a file to another name, if it is there, over what has that name. -/
def moveOver (source target : String) : Action Unit := do
  if (← get).holds source then
    if (← get).holds target then Disk.removeFile target
    Disk.renameFile source target

/-- Moves each older file to the next number, the oldest first. -/
def shiftOlder (path : String) : Nat → Action Unit
  | 0 => pure ()
  | number + 1 => do
    moveOver (olderPath path (number + 1)) (olderPath path (number + 2))
    shiftOlder path number

/-- Sets a file aside. -/
def rollOver (path : String) (backupCount : Nat) : Action Unit :=
  match backupCount with
  | 0 => pure ()
  | older + 1 => do
    shiftOlder path older
    let first := olderPath path 1
    if (← get).holds first then Disk.removeFile first
    moveOver path first

/-- A line would make a file too large. -/
def overflows (disk : Disk) (path line : String) (maxBytes : Int) : Bool :=
  match disk.readBytes path with
  | .ok bytes => 0 < maxBytes && maxBytes ≤ ((bytes.length + line.length + 1 : Nat) : Int)
  | .error _ => false

/-- Writes a line at the end of a file that is rolled over at a size. -/
def writeLine (path line : String) (maxBytes backupCount : Int) : Action Unit := do
  if overflows (← get) path line maxBytes then rollOver path backupCount.toNat
  Disk.appendFile path (Text.Utf8.encode (line ++ "\n"))

end ComponentAtlas.Log
