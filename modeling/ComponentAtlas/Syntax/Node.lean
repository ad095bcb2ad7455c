import ComponentAtlas.Text.Utf8

/-!
# Syntax trees

A node has a kind, the field it fills in its parent, a spelling (only leaves have
one), flags that tell where a reader had to recover, a position and its children
in document order. Fields belong to the child: a node answers for a field with its
first child that fills it.

`Node.walk keep` visits a list of pending trees in document order and enters the
children that `keep` admits. It holds the pending trees explicitly, so its depth does
not grow with the tree; `Node.reached` is the same visit by recursion on the tree, and
`walk_eq_reached` says that they agree.
-/

namespace ComponentAtlas.Syntax

/-- A place in a source text, both counts starting at zero. -/
structure Position where
  row : Nat
  column : Nat
  deriving Repr, DecidableEq, Inhabited

/-- A node of a syntax tree. Tokens that only punctuate are nodes with `named = false`. -/
structure Node where
  kind : String
  field : Option String
  named : Bool
  spelling : List UInt8
  hasError : Bool
  isMissing : Bool
  position : Position
  children : List Node
  deriving Repr, Inhabited

namespace Node

/-- A named node without faults. -/
def branch (kind : String) (children : List Node) : Node :=
  { kind, field := none, named := true, spelling := [], hasError := false, isMissing := false,
    position := ⟨0, 0⟩, children }

/-- A named node that is spelled out in the text. -/
def leaf (kind : String) (text : String) : Node :=
  { branch kind [] with spelling := Text.Utf8.encode text }

/-- The same node, filling a field of its parent. -/
def inField (node : Node) (name : String) : Node := { node with field := some name }

/-- The spelling as text. A node without a spelling reads as the empty text. -/
def text (node : Node) : String := Text.Utf8.decodeLossy node.spelling

/-- The children that are more than punctuation. -/
def namedChildren (node : Node) : List Node := node.children.filter (·.named)

/-- The named children that are no comments. -/
def significantChildren (node : Node) : List Node :=
  node.namedChildren.filter (·.kind != "comment")

/-- The first child that fills a field. -/
def child? (node : Node) (name : String) : Option Node :=
  node.children.find? (·.field == some name)

/-! ## The size of a tree -/

/-- The number of nodes of a tree, its root included. -/
def size : Node → Nat
  | ⟨_, _, _, _, _, _, _, children⟩ => 1 + sizes children
where
  /-- The number of nodes of a list of trees. -/
  sizes : List Node → Nat
    | [] => 0
    | child :: rest => size child + sizes rest

/-- The number of nodes of a list of trees. -/
abbrev sizes : List Node → Nat := size.sizes

/-- A tree is its root and the trees below it. -/
theorem size_eq (node : Node) : node.size = 1 + sizes node.children := by
  cases node; simp [size]

/-- No tree has no node. -/
@[simp] theorem sizes_nil : sizes [] = 0 := by simp [sizes, size.sizes]

/-- The nodes of a list of trees are those of the first and those of the others. -/
@[simp] theorem sizes_cons (node : Node) (rest : List Node) :
    sizes (node :: rest) = node.size + sizes rest := by simp [sizes, size.sizes]

/-- The nodes of two lists are counted in turn. -/
@[simp] theorem sizes_append (front back : List Node) :
    sizes (front ++ back) = sizes front + sizes back := by
  induction front with
  | nil => simp
  | cons node rest ih => simp [ih]; omega

/-- Some of the trees have no more nodes than all of them. -/
theorem sizes_filter_le (keep : Node → Bool) (nodes : List Node) :
    sizes (nodes.filter keep) ≤ sizes nodes := by
  induction nodes with
  | nil => simp
  | cons node rest ih =>
    by_cases kept : keep node = true
    · simp [List.filter_cons_of_pos kept]; exact ih
    · simp [List.filter_cons_of_neg kept]; omega

/-- One tree has no more nodes than a list in which it is. -/
theorem size_lt_of_mem {child : Node} {nodes : List Node} (member : child ∈ nodes) :
    child.size ≤ sizes nodes := by
  induction nodes with
  | nil => cases member
  | cons node rest ih =>
    simp only [sizes_cons]
    cases member with
    | head => omega
    | tail _ later => have := ih later; omega

/-! ## Visiting a tree -/

/-- The children that a visit enters. -/
def entered (keep : Node → Bool) (node : Node) : List Node := node.children.filter keep

/-- The children that a visit enters have fewer nodes than the tree, whose root is one more. -/
theorem sizes_entered_lt (keep : Node → Bool) (node : Node) :
    sizes (node.entered keep) < node.size := by
  have := sizes_filter_le keep node.children
  rw [size_eq, entered]; omega

/-- Visits pending trees in document order. Of the children of a visited node only those
that `keep` admits are entered. Each step replaces a tree by some of its children, so the
number of pending nodes falls. -/
def walk (keep : Node → Bool) : List Node → List Node
  | [] => []
  | node :: pending => node :: walk keep (node.entered keep ++ pending)
termination_by pending => sizes pending
decreasing_by
  have := sizes_entered_lt keep node
  simp only [sizes_append, sizes_cons]; omega

/-- A node followed by what is reached below it through children that `keep` admits. -/
def reached (keep : Node → Bool) : Node → List Node
  | node@⟨_, _, _, _, _, _, _, children⟩ => node :: reachedBelow children
where
  /-- What is reached from a list of trees through those that `keep` admits. -/
  reachedBelow : List Node → List Node
    | [] => []
    | child :: rest => (if keep child then reached keep child else []) ++ reachedBelow rest

/-- From a node it is reached itself, and what is reached below it. -/
theorem reached_eq (keep : Node → Bool) (node : Node) :
    node.reached keep = node :: reached.reachedBelow keep node.children := by
  cases node; simp [reached]

/-- Below nodes is reached what is reached from each of those that are entered. -/
theorem reachedBelow_eq (keep : Node → Bool) (nodes : List Node) :
    reached.reachedBelow keep nodes = (nodes.filter keep).flatMap (reached keep) := by
  induction nodes with
  | nil => simp [reached.reachedBelow]
  | cons node rest ih =>
    rw [reached.reachedBelow, ih]
    by_cases kept : keep node = true <;> simp [kept]

/-- The same, node by node. -/
theorem reachedBelow_eq_flatMap (keep : Node → Bool) (nodes : List Node) :
    reached.reachedBelow keep nodes =
      nodes.flatMap fun child => if keep child then child.reached keep else [] := by
  induction nodes with
  | nil => rfl
  | cons node rest ih => rw [reached.reachedBelow, ih, List.flatMap_cons]

/-- The visit with pending trees is the recursion on each tree in turn. -/
theorem walk_eq_reached (keep : Node → Bool) (pending : List Node) :
    walk keep pending = pending.flatMap (reached keep) := by
  fun_induction walk keep pending with
  | case1 => rfl
  | case2 node pending ih =>
    rw [ih, List.flatMap_append, List.flatMap_cons, reached_eq, reachedBelow_eq, entered]
    simp

/-- The strict descendants, in document order. -/
def descendants (node : Node) : List Node := walk (fun _ => true) node.children

end Node

end ComponentAtlas.Syntax
