import ComponentAtlas.Keyed
import ComponentAtlas.Text.Quoted

/-!
# Entries of a disk

A disk is a finite tree of directories, files and symbolic links. Names inside a directory
differ. A directory may refuse to be listed; its entries can then still be reached by name.
-/

namespace ComponentAtlas.Disk

/-- What a name stands for. -/
inductive Entry where
  | file (bytes : List UInt8)
  | directory (listable : Bool) (entries : List (String × Entry))
  | link (target : String)
  deriving Repr, Inhabited

namespace Entry

/-- A directory that is listed and holds nothing. -/
def emptyDirectory : Entry := .directory true []

/-- Puts an entry at a place, given by the names that lead there. What is missing on the way
becomes a directory. -/
def put (new : Entry) : List String → Entry → Entry
  | [], _ => new
  | name :: rest, .directory listable entries =>
    .directory listable (Keyed.set entries name
      (put new rest ((Keyed.get? entries name).getD emptyDirectory)))
  | _ :: _, other => other

/-- Takes the entry at a place away. -/
def remove : List String → Entry → Entry
  | [name], .directory listable entries => .directory listable (Keyed.erase entries name)
  | name :: rest, .directory listable entries =>
    match Keyed.get? entries name with
    | some inner => .directory listable (Keyed.set entries name (remove rest inner))
    | none => .directory listable entries
  | _, other => other

/-- The entry at a place. -/
def find? : List String → Entry → Option Entry
  | [], entry => some entry
  | name :: rest, .directory _ entries =>
    match Keyed.get? entries name with
    | some inner => find? rest inner
    | none => none
  | _ :: _, _ => none

mutual

/-- The tree with the entries of each directory in order of their names. -/
def sorted : Entry → Entry
  | .directory listable entries =>
    .directory listable ((sortedEach entries).mergeSort fun a b => decide (a.1 ≤ b.1))
  | other => other

/-- Entries, each with what is below it in order. -/
def sortedEach : List (String × Entry) → List (String × Entry)
  | [] => []
  | (name, entry) :: rest => (name, sorted entry) :: sortedEach rest

end

end Entry

/-! ## Faults -/

/-- Why a disk refuses something. -/
inductive Cause where
  | missing
  | denied
  | occupied
  | notDirectory
  | isDirectory
  | tooManyLinks
  deriving Repr, DecidableEq

namespace Cause

/-- The number of a cause. -/
def number : Cause → Nat
  | missing => 2
  | denied => 13
  | occupied => 17
  | notDirectory => 20
  | isDirectory => 21
  | tooManyLinks => 40

/-- The words for a cause. -/
def text : Cause → String
  | missing => "No such file or directory"
  | denied => "Permission denied"
  | occupied => "File exists"
  | notDirectory => "Not a directory"
  | isDirectory => "Is a directory"
  | tooManyLinks => "Too many levels of symbolic links"

end Cause

/-- What a disk refuses, with the path as it was given. -/
structure Fault where
  cause : Cause
  path : String
  deriving Repr, DecidableEq

/-- The fault in words. -/
def Fault.message (fault : Fault) : String :=
  s!"[Errno {fault.cause.number}] {fault.cause.text}: {Text.Quoted.encode fault.path}"

end ComponentAtlas.Disk
