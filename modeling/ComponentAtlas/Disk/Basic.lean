import ComponentAtlas.Disk.Entry
import ComponentAtlas.Path.Segment

/-!
# Disks

A path leads through a disk from its root or from the working directory, segment by segment.
A double dot leads back to the directory that was really entered, and a symbolic link is
replaced by what it points to; after forty links the disk gives up.

Actions change a disk or fail. A failing action may have changed the disk before it failed.
-/

namespace ComponentAtlas

/-- A disk with a working directory. -/
structure Disk where
  root : Disk.Entry
  cwd : String
  deriving Repr, Inhabited

namespace Disk

/-- Where a path leads: to an entry, or to a name that its directory does not hold. -/
inductive Destination where
  | present (place : List String) (entry : Entry)
  | absent (place : List String)
  deriving Repr

/-- The number of links that a path may lead through. -/
def linkLimit : Nat := 40

/-- Walks through the segments of a path. `trail` holds the entries that were entered, the
last of them first, each with its name. -/
def walk (root : Entry) (follow : Bool) (links : Nat) (trail : List (String × Entry)) :
    List String → Except Cause Destination
  | [] => .ok (.present (trail.map (·.1)).reverse ((trail.head?.map (·.2)).getD root))
  | name :: rest =>
    match (trail.head?.map (·.2)).getD root with
    | .directory _ entries =>
      if name == "" || name == "." then walk root follow links trail rest
      else if name == ".." then walk root follow links trail.tail rest
      else
        match Keyed.get? entries name with
        | none =>
          if rest.all (· == "") then .ok (.absent (name :: trail.map (·.1)).reverse)
          else .error .missing
        | some (.link target) =>
          if rest.isEmpty && !follow then
            .ok (.present (name :: trail.map (·.1)).reverse (.link target))
          else
            match links with
            | 0 => .error .tooManyLinks
            | left + 1 =>
              let start := if target.toList.head? == some '/' then [] else trail
              let segments := (Path.split target.toList).map String.ofList
              walk root follow left start (segments ++ rest)
        | some entry => walk root follow links ((name, entry) :: trail) rest
    | _ => .error .notDirectory
termination_by pending => (links, pending.length)

/-- Where a path leads. With `follow`, a link at its end counts as what it points to. -/
def locate (disk : Disk) (follow : Bool) (path : String) : Except Cause Destination :=
  if path.isEmpty then .error .missing
  else
    let whole := Path.below disk.cwd.toList path.toList
    walk disk.root follow linkLimit [] ((Path.split whole).map String.ofList)

/-- The entry that a path leads to. -/
def find? (disk : Disk) (path : String) : Option Entry :=
  match disk.locate true path with
  | .ok (.present _ entry) => some entry
  | _ => none

/-- A path leads to an entry. -/
def holds (disk : Disk) (path : String) : Bool := (disk.find? path).isSome

/-- A path leads to a directory. -/
def holdsDirectory (disk : Disk) (path : String) : Bool :=
  match disk.find? path with
  | some (.directory ..) => true
  | _ => false

/-- What a file holds. -/
def readBytes (disk : Disk) (path : String) : Except Fault (List UInt8) :=
  match disk.locate true path with
  | .ok (.present _ (.file bytes)) => .ok bytes
  | .ok (.present _ (.directory ..)) => .error ⟨.isDirectory, path⟩
  | .ok (.present _ (.link _)) => .error ⟨.tooManyLinks, path⟩
  | .ok (.absent ..) => .error ⟨.missing, path⟩
  | .error cause => .error ⟨cause, path⟩

/-! ## Actions -/

/-- Changes a disk, and gives a value or fails. -/
abbrev Action := ExceptT Fault (StateM Disk)

/-- Puts an entry at a place. -/
def place (place : List String) (entry : Entry) : Action Unit :=
  modify fun disk => { disk with root := Entry.put entry place disk.root }

/-- A path without the slashes at its end, unless it holds nothing else. -/
def withoutSlashes (path : String) : String :=
  let trimmed := (path.toList.reverse.dropWhile (· == '/')).reverse
  if trimmed.isEmpty then path else String.ofList trimmed

/-- Makes a directory, whose parent has to be there. Slashes may follow its name. -/
def makeDirectory (path : String) : Action Unit := do
  match (← get).locate false (withoutSlashes path) with
  | .ok (.absent name) => place name .emptyDirectory
  | .ok (.present ..) => throw ⟨.occupied, path⟩
  | .error cause => throw ⟨cause, path⟩

/-- Makes a directory, unless there is one. -/
def ensureDirectory (path : String) : Action Unit := do
  try makeDirectory path
  catch fault =>
    if (← get).holdsDirectory path then pure () else throw fault

/-- A path without its last segment, and that segment. Slashes at the end do not count. -/
def parentAndName (path : List Char) : List Char × List Char :=
  let parent := Path.directory path
  if (Path.baseName path).isEmpty then (Path.directory parent, Path.baseName parent)
  else (parent, Path.baseName path)

/-- Makes a directory with its parents. That a parent turns out to be something else shows
when the directory below it is made. -/
def makeDirectories (path : List Char) : Action Unit := do
  let (parent, name) := parentAndName path
  let disk ← get
  if _shorter : parent.length < path.length then
    if !parent.isEmpty && !name.isEmpty && !disk.holds (String.ofList parent) then
      try makeDirectories parent
      catch fault => if fault.cause == .occupied then pure () else throw fault
      if name == ['.'] then return
  ensureDirectory (String.ofList path)
termination_by path.length

/-- The directory that a path lies in, seen from the working directory. -/
def outerDirectory (disk : Disk) (path : String) : List Char :=
  Path.directory (Path.absolute disk.cwd.toList path.toList)

/-- A path that can only mean a directory, because a slash ends it. -/
def meansDirectory (path : String) : Bool := path.toList.getLast? == some '/'

/-- Refuses a path that means a directory, wherever the directory above it is there. -/
def refuseDirectory (path : String) : Action Unit := do
  match (← get).locate false (withoutSlashes path) with
  | .ok _ => throw ⟨.isDirectory, path⟩
  | .error cause => throw ⟨cause, path⟩

/-- Changes what a file holds. A file that is not there is made, and holds nothing before. -/
def changeFile (path : String) (change : List UInt8 → List UInt8) : Action Unit := do
  if meansDirectory path then refuseDirectory path
  match (← get).locate true path with
  | .ok (.present name (.file bytes)) => place name (.file (change bytes))
  | .ok (.present _ (.directory ..)) => throw ⟨.isDirectory, path⟩
  | .ok (.present _ (.link _)) => throw ⟨.tooManyLinks, path⟩
  | .ok (.absent name) => place name (.file (change []))
  | .error cause => throw ⟨cause, path⟩

/-- Makes a file hold given bytes. -/
def writeFile (path : String) (bytes : List UInt8) : Action Unit :=
  changeFile path fun _ => bytes

/-- Adds bytes at the end of a file. -/
def appendFile (path : String) (bytes : List UInt8) : Action Unit := changeFile path (· ++ bytes)

/-- Takes away what a path leads to, and not what a link there points to. -/
def removeFile (path : String) : Action Unit := do
  match (← get).locate false path with
  | .ok (.present _ (.directory ..)) => throw ⟨.isDirectory, path⟩
  | .ok (.present name _) => modify fun disk => { disk with root := disk.root.remove name }
  | .ok (.absent ..) => throw ⟨.missing, path⟩
  | .error cause => throw ⟨cause, path⟩

/-- Moves what a path leads to under another path, where nothing is in the way. -/
def renameFile (source target : String) : Action Unit := do
  match (← get).locate false source, (← get).locate false target with
  | .ok (.present name entry), .ok (.absent newName) =>
    modify fun disk => { disk with root := Entry.put entry newName (disk.root.remove name) }
  | .ok (.present ..), .ok (.present ..) => throw ⟨.occupied, target⟩
  | .ok (.absent ..), _ => throw ⟨.missing, source⟩
  | .error cause, _ => throw ⟨cause, source⟩
  | _, .error cause => throw ⟨cause, target⟩

end Disk

end ComponentAtlas
