import ComponentAtlas.Disk.Basic
import ComponentAtlas.Log.Entry
import ComponentAtlas.Path.Resolution

/-!
# Collecting source files

The source files below a directory are found by walking through its entries in order of their
names. An entry whose name is excluded is passed over with all that is below it. Links are
not followed; like files, they count by their extension. A directory that is not listed is
passed over with a warning, unless the walk was to start there.

What is found is a list of rows of names, each leading from the directory to a file.
-/

namespace ComponentAtlas.Scan

open Disk (Entry)

/-- A source file: where it is, and where it is seen from the base directory. -/
structure SourceFile where
  path : String
  relPath : String
  deriving Repr, DecidableEq

/-- Why the directory to start from cannot be used. -/
inductive Obstacle where
  | missing
  | notDirectory
  | refused (cause : Disk.Cause)
  deriving Repr, DecidableEq

/-- The obstacle in words. -/
def Obstacle.text : Obstacle → String
  | missing => "directory does not exist"
  | notDirectory => "not a directory"
  | refused cause => cause.text

/-- A directory that cannot be used. -/
structure Inaccessible where
  path : String
  obstacle : Obstacle
  deriving Repr, DecidableEq

/-- What is said of a directory that cannot be used. -/
def Inaccessible.message (inaccessible : Inaccessible) : String :=
  s!"Cannot access directory '{inaccessible.path}': {inaccessible.obstacle.text}"

/-! ## Walking -/

/-- What decides about names. -/
structure Choice where
  /-- The name is passed over. -/
  excludes : String → Bool
  /-- The name is a source file's. -/
  accepts : String → Bool

/-- Something that a walk comes across: a source file, or a directory that is not listed. -/
inductive Find where
  | source (names : List String)
  | unlisted (names : List String)
  deriving Repr, DecidableEq

namespace Find

/-- The find, seen from one directory further up. -/
def below (name : String) : Find → Find
  | source names => source (name :: names)
  | unlisted names => unlisted (name :: names)

/-- The names that lead to a source file. -/
def source? : Find → Option (List String)
  | source names => some names
  | unlisted _ => none

end Find

mutual

/-- What a walk comes across at an entry that is not excluded. -/
def findsAt (choice : Choice) (name : String) : Entry → List Find
  | .directory listable entries =>
    if listable then (findsIn choice entries).map (Find.below name) else [.unlisted [name]]
  | .file _ => if choice.accepts name then [.source [name]] else []
  | .link _ => if choice.accepts name then [.source [name]] else []

/-- What a walk comes across in a row of entries. -/
def findsIn (choice : Choice) : List (String × Entry) → List Find
  | [] => []
  | (name, entry) :: rest =>
    (if choice.excludes name then [] else findsAt choice name entry) ++ findsIn choice rest

end

/-- What a walk comes across below a directory, in order of the names. -/
def finds (choice : Choice) (entries : List (String × Entry)) : List Find :=
  findsIn choice ((Entry.sortedEach entries).mergeSort fun a b => decide (a.1 ≤ b.1))

/-! ## Collecting -/

/-- The path that names lead to from a directory. -/
def pathTo (directory : String) (names : List String) : String :=
  let tail := "/".intercalate names
  if directory.toList.getLast? == some '/' then directory ++ tail
  else directory ++ "/" ++ tail

/-- The source file that a find is, if it is one. -/
def Find.file? (root base : String) (find : Find) : Option SourceFile :=
  find.source?.map fun names =>
    ⟨pathTo root names, Path.relativePosix "/" (pathTo root names) base⟩

/-- What is said of a find. -/
def Find.remark? (root : String) : Find → Option Log.Entry
  | source _ => none
  | unlisted names =>
    let fault : Disk.Fault := ⟨.denied, pathTo root names⟩
    some ⟨.warning, Log.Channel.collection,
      s!"Skipping unreadable directory {pathTo root names}: {fault.message}"⟩

/-- The entries of the directory to start from. -/
def rootEntries (disk : Disk) (root : String) : Except Inaccessible (List (String × Entry)) :=
  match disk.find? root with
  | none => .error ⟨root, .missing⟩
  | some (.directory true entries) => .ok entries
  | some (.directory false _) => .error ⟨root, .refused .denied⟩
  | some _ => .error ⟨root, .notDirectory⟩

/-- The source files below a directory, and what is said on the way. Paths are seen from the
base directory, or from the directory itself if there is none. -/
def collect (disk : Disk) (choice : Choice) (directory : String) (base : Option String) :
    Except Inaccessible (List SourceFile × List Log.Entry) := do
  let whole := fun (path : String) => String.ofList (Path.absolute disk.cwd.toList path.toList)
  let root := whole directory
  let seenFrom := ((base.filter (!·.isEmpty)).map whole).getD root
  let found := finds choice (← rootEntries disk root)
  let files := found.filterMap (Find.file? root seenFrom)
  let summary : Log.Entry :=
    ⟨.debug, Log.Channel.collection, s!"Collected {files.length} source files under {root}"⟩
  return (files, found.filterMap (Find.remark? root) ++ [summary])

end ComponentAtlas.Scan
