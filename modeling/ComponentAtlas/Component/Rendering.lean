import ComponentAtlas.Component.Tree

/-!
# Drawing trees

A tree is drawn with one line for each node. A root stands at the margin; below it, a
connector in front of each node shows whether more siblings follow, and a bar runs down from
each ancestor that has more siblings to come.

`drawBranches` works on pending branches, each with the indentation of its level and with
whether it is the last of its siblings. It appends to lines that are there already, so its depth
does not grow with the tree, and a whole forest is drawn into one row of lines.
-/

namespace ComponentAtlas.Component

namespace Tree

/-- What is written for a node, with or without its file. -/
def label (showPaths : Bool) (tree : Tree) : String :=
  let title := if showPaths then s!"{tree.name} ({tree.filePath})" else tree.name
  match tree.remark? with
  | some remark => s!"{title} [{remark}]"
  | none => title

/-- What joins a node to its parent. -/
def connector (last : Bool) : String := if last then "└── " else "├── "

/-- What stands under a node in front of its descendants. -/
def indentation (last : Bool) : String := if last then "    " else "│   "

/-- A tree that is to be drawn at an indentation. -/
structure Branch where
  tree : Tree
  indent : String
  last : Bool

/-- Siblings at an indentation. The last one is told by its number. -/
def branches (indent : String) (trees : List Tree) : List Branch :=
  trees.zipIdx.map fun (tree, number) => ⟨tree, indent, number + 1 == trees.length⟩

/-- The branches are those of the siblings, in order. -/
@[simp] theorem map_tree_branches (indent : String) (trees : List Tree) :
    (branches indent trees).map Branch.tree = trees := by
  rw [branches, List.map_map]
  exact List.zipIdx_map_fst 0 trees

/-- The number of nodes of pending branches. -/
def pendingSize (pending : List Branch) : Nat := sizes (pending.map Branch.tree)

/-- Appends the lines of pending branches. The branches below a node come before those after
it. -/
def drawBranches (showPaths : Bool) (lines : Array String) : List Branch → Array String
  | [] => lines
  | ⟨tree, indent, last⟩ :: pending =>
    drawBranches showPaths (lines.push (indent ++ connector last ++ tree.label showPaths))
      (branches (indent ++ indentation last) tree.children ++ pending)
termination_by pending => pendingSize pending
decreasing_by
  have whole := size_eq tree
  simp only [pendingSize, List.map_append, List.map_cons, map_tree_branches, sizes_append,
    sizes_cons]
  omega

/-- Appends the lines of sibling trees at an indentation. -/
def drawSiblings (showPaths : Bool) (lines : Array String) (indent : String)
    (trees : List Tree) : Array String :=
  drawBranches showPaths lines (branches indent trees)

/-- Appends the lines of a tree: its root at the margin, and what is below it. -/
def drawTree (showPaths : Bool) (lines : Array String) (root : Tree) : Array String :=
  drawSiblings showPaths (lines.push (root.label showPaths)) "" root.children

/-- The lines of a forest. -/
def draw (showPaths : Bool) (roots : List Tree) : List String :=
  (roots.foldl (drawTree showPaths) #[]).toList

end Tree

end ComponentAtlas.Component
