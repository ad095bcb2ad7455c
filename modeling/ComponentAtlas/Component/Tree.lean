import ComponentAtlas.Json.Basic

/-!
# Component trees

A tree shows which components a component renders, and so on below them. Each node is one
occurrence of a component; the same component may occur at many places.

`Tree.toJson` is the stored form of a tree by recursion. `Tree.serialize` computes it with an
explicit row of unfinished ancestors, so that its depth does not grow with the tree, and
`serialize_eq_toJson` says that both agree.
-/

namespace ComponentAtlas.Component

/-- An occurrence of a component with the occurrences that it renders. -/
structure Tree where
  name : String
  filePath : String
  note : Option String
  children : List Tree
  deriving Repr, Inhabited

namespace Tree

/-- The occurrence carries a note, which stops it from being expanded. -/
def isCycle (tree : Tree) : Bool := tree.note.isSome

/-- The note, unless it says nothing. -/
def remark? (tree : Tree) : Option String := tree.note.filter (!·.isEmpty)

/-! ## The size of a tree -/

/-- The number of nodes of a tree. -/
def size : Tree → Nat
  | ⟨_, _, _, children⟩ => 1 + sizes children
where
  /-- The number of nodes of a list of trees. -/
  sizes : List Tree → Nat
    | [] => 0
    | child :: rest => size child + sizes rest

/-- The number of nodes of a list of trees. -/
abbrev sizes : List Tree → Nat := size.sizes

/-- A tree is its root and the trees below it. -/
theorem size_eq (tree : Tree) : tree.size = 1 + sizes tree.children := by
  cases tree; simp [size]

/-- No tree has no node. -/
@[simp] theorem sizes_nil : sizes [] = 0 := by simp [sizes, size.sizes]

/-- The nodes of a list of trees are those of the first and those of the others. -/
@[simp] theorem sizes_cons (tree : Tree) (rest : List Tree) :
    sizes (tree :: rest) = tree.size + sizes rest := by simp [sizes, size.sizes]

/-- The nodes of two lists are counted in turn. -/
@[simp] theorem sizes_append (front back : List Tree) :
    sizes (front ++ back) = sizes front + sizes back := by
  induction front with
  | nil => simp
  | cons tree rest ih => simp [ih]; omega

/-! ## Stored form -/

/-- A node as stored data, given the stored form of its children. -/
def toObject (tree : Tree) (children : List Json) : Json :=
  let fields : Json.Fields := [
    ("name", .str tree.name), ("filePath", .str tree.filePath), ("children", .list children)]
  match tree.remark? with
  | some remark => .object (fields ++ [("note", .str remark)])
  | none => .object fields

/-- A tree as stored data. -/
def toJson : Tree → Json
  | tree@⟨_, _, _, children⟩ => toObject tree (toJsons children)
where
  /-- A list of trees as stored data. -/
  toJsons : List Tree → List Json
    | [] => []
    | child :: rest => toJson child :: toJsons rest

/-- A node some of whose children are written, the last of them first, and some pending. -/
structure Unfinished where
  tree : Tree
  written : List Json
  pending : List Tree

/-- The number of nodes that wait below a row of unfinished ancestors. -/
def waiting : List Unfinished → Nat
  | [] => 0
  | frame :: rest => sizes frame.pending + waiting rest

/-- Goes on writing below a row of unfinished ancestors, the nearest first. A pending child is
written before the children after it, and a node whose children are all written goes to its
parent. -/
def write (node : Unfinished) (above : List Unfinished) : Json :=
  match node with
  | ⟨tree, written, child :: later⟩ =>
    write ⟨child, [], child.children⟩ (⟨tree, written, later⟩ :: above)
  | ⟨tree, written, []⟩ =>
    match above with
    | [] => tree.toObject written.reverse
    | ⟨parent, before, later⟩ :: rest =>
      write ⟨parent, tree.toObject written.reverse :: before, later⟩ rest
termination_by 2 * (sizes node.pending + waiting above) + above.length
decreasing_by
  · have := size_eq child
    simp only [waiting, List.length_cons, sizes_cons]; omega
  · simp only [waiting, List.length_cons, sizes_nil]; omega

/-- The stored form of a tree, computed without recursion on the tree. -/
def serialize (tree : Tree) : Json := write ⟨tree, [], tree.children⟩ []

/-- The stored form of a whole tree, given that of a node below unfinished ancestors. -/
def finish : List Unfinished → Json → Json
  | [], json => json
  | ⟨tree, written, pending⟩ :: above, json =>
    finish above (tree.toObject (written.reverse ++ json :: toJson.toJsons pending))

/-- A tree is stored with the stored forms of its children. -/
theorem toJson_eq (tree : Tree) : tree.toJson = tree.toObject (toJson.toJsons tree.children) := by
  cases tree; simp [toJson]

/-- Writing goes on as if what is pending were written by recursion. -/
theorem write_eq_finish (node : Unfinished) (above : List Unfinished) :
    write node above = finish above
      (node.tree.toObject (node.written.reverse ++ toJson.toJsons node.pending)) := by
  fun_induction write node above with
  | case1 above tree written child later ih => rw [ih, finish, toJson.toJsons, toJson_eq]; simp
  | case2 tree written => simp [finish, toJson.toJsons]
  | case3 tree written parent before later rest ih =>
    simpa [finish, toJson.toJsons] using ih

/-- Writing with unfinished ancestors and writing by recursion agree. -/
theorem serialize_eq_toJson (tree : Tree) : tree.serialize = tree.toJson := by
  rw [serialize, write_eq_finish, finish, toJson_eq]; rfl

end Tree

end ComponentAtlas.Component
