import ComponentAtlas.Disk.Basic

/-!
# Changes of a disk

Two states of a disk are told apart by changes: directories that were made, files that hold
what they did not hold before, and names that are gone. Links are never changed, and do not
count. Each change comes after the one that makes the directory in which it takes place.
-/

namespace ComponentAtlas.Disk

/-- A change, with the names that lead to where it took place. -/
inductive Change where
  | made (place : List String)
  | written (place : List String) (bytes : List UInt8)
  | gone (place : List String)
  deriving Repr, DecidableEq

/-- The change, seen from one directory further up. -/
def Change.below (name : String) : Change → Change
  | made place => made (name :: place)
  | written place bytes => written (name :: place) bytes
  | gone place => gone (name :: place)

namespace Entry

/-- The entries of a directory, and none of anything else. -/
def entries : Option Entry → List (String × Entry)
  | some (.directory _ entries) => entries
  | _ => []

/-- A directory. -/
def isDirectory : Option Entry → Bool
  | some (.directory ..) => true
  | _ => false

/-- A file that holds given bytes. -/
def holdsBytes (bytes : List UInt8) : Option Entry → Bool
  | some (.file old) => old == bytes
  | _ => false

mutual

/-- What has changed at an entry since an earlier state of it, in which it may not have been
there. -/
def changes (before : Option Entry) : Entry → List Change
  | .file bytes => if holdsBytes bytes before then [] else [.written [] bytes]
  | .link _ => []
  | .directory _ now =>
    (if isDirectory before then [] else [.made []])
      ++ ((entries before).filter fun (name, _) => !Keyed.has now name).map (fun (name, _) =>
        .gone [name])
      ++ changesIn (entries before) now

/-- What has changed in a row of entries since an earlier state of their directory. -/
def changesIn (before : List (String × Entry)) : List (String × Entry) → List Change
  | [] => []
  | (name, entry) :: rest =>
    (changes (Keyed.get? before name) entry).map (Change.below name) ++ changesIn before rest

end

end Entry

/-- What has changed between two states of a disk. -/
def changes (before after : Disk) : List Change := after.root.changes (some before.root)

end ComponentAtlas.Disk
