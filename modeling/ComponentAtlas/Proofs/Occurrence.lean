import ComponentAtlas.Syntax.Shape
import Mathlib.Data.List.FinRange
import Mathlib.Data.List.Induction
import Mathlib.Data.List.Nodup
import Mathlib.Logic.Relation

/-!
# Occurrences in a syntax tree

Two nodes of a tree can be equal as values and still stand at different places. An occurrence
is a node together with the way to it from the root, so it tells such nodes apart. The
readings of `Node` are repeated here on occurrences, and each is shown to give the same nodes;
nothing new is decided by them.

A visit that enters only some children reaches an occurrence exactly if every occurrence on
the way down to it is entered, and it reaches none twice. Of two occurrences above a third
one, one is above the other.
-/

namespace ComponentAtlas.Syntax

/-- The node at the end of a way: each number tells which child is taken. -/
def Node.at? : List Nat → Node → Option Node
  | [], node => some node
  | index :: rest, node => node.children[index]?.bind (Node.at? rest)

/-- A way in two parts is taken one after the other. -/
theorem Node.at?_append (front back : List Nat) (node : Node) :
    Node.at? (front ++ back) node = (Node.at? front node).bind (Node.at? back) := by
  induction front generalizing node with
  | nil => rfl
  | cons index rest ih =>
    simp only [List.cons_append, Node.at?, Option.bind_assoc]
    congr 1
    funext child
    exact ih child

/-- A node of a tree with the way to it. -/
structure Occurrence (tree : Node) where
  way : List Nat
  node : Node
  found : Node.at? way tree = some node

namespace Occurrence

variable {tree : Node}

/-- An occurrence is known by its way. -/
theorem eq_of_way {first second : Occurrence tree} (same : first.way = second.way) :
    first = second := by
  obtain ⟨way, node, found⟩ := first
  obtain ⟨other, stored, again⟩ := second
  obtain rfl : way = other := same
  obtain rfl : node = stored := Option.some.inj (found.symm.trans again)
  rfl

/-- The root of the tree. -/
def root (tree : Node) : Occurrence tree := ⟨[], tree, rfl⟩

/-- A child of an occurrence. -/
def child (upper : Occurrence tree) (index : Fin upper.node.children.length) :
    Occurrence tree where
  way := upper.way ++ [index.val]
  node := upper.node.children[index]
  found := by
    rw [Node.at?_append, upper.found]
    simp [Node.at?]

/-! ## Readings -/

/-- The children in order. -/
def children (upper : Occurrence tree) : List (Occurrence tree) := List.ofFn upper.child

/-- The children that are more than punctuation. -/
def namedChildren (upper : Occurrence tree) : List (Occurrence tree) :=
  upper.children.filter (·.node.named)

/-- The named children that are no comments. -/
def significantChildren (upper : Occurrence tree) : List (Occurrence tree) :=
  upper.namedChildren.filter (·.node.kind != "comment")

/-- The first child that fills a field. -/
def child? (upper : Occurrence tree) (name : String) : Option (Occurrence tree) :=
  upper.children.find? (·.node.field == some name)

/-- Without their places, the children are those of the node. -/
@[simp] theorem map_node_children (upper : Occurrence tree) :
    upper.children.map node = upper.node.children := by
  rw [children, List.map_ofFn]
  exact List.ofFn_getElem

/-- So are the named children. -/
@[simp] theorem map_node_namedChildren (upper : Occurrence tree) :
    upper.namedChildren.map node = upper.node.namedChildren := by
  rw [Node.namedChildren, ← map_node_children, List.filter_map]
  rfl

/-- So are the significant ones. -/
@[simp] theorem map_node_significantChildren (upper : Occurrence tree) :
    upper.significantChildren.map node = upper.node.significantChildren := by
  rw [Node.significantChildren, ← map_node_namedChildren, List.filter_map]
  rfl

/-- What fills a field in the tree fills it in the node. -/
@[simp] theorem map_node_child? (upper : Occurrence tree) (name : String) :
    (upper.child? name).map node = upper.node.child? name := by
  rw [Node.child?, ← map_node_children, List.find?_map]
  rfl

/-- The occurrence inside redundant parentheses. -/
def unwrapped (outer : Occurrence tree) : Occurrence tree :=
  if outer.node.kind == "parenthesized_expression" then
    match _inner : outer.significantChildren with
    | [inner] => unwrapped inner
    | _ => outer
  else outer
termination_by outer.node.size
decreasing_by
  apply Node.size_lt_of_significant
  rw [← map_node_significantChildren, _inner]
  simp

/-- Looking through parentheses leads to the node that it leads to in the tree. -/
@[simp] theorem node_unwrapped (outer : Occurrence tree) :
    outer.unwrapped.node = outer.node.unwrapped := by
  fun_induction unwrapped outer with
  | case1 outer wrapped inner alone ih =>
    have single : outer.node.significantChildren = [inner.node] := by
      rw [← map_node_significantChildren, alone]
      rfl
    rw [ih, Node.unwrapped_of_single (by simpa using wrapped) single]
  | case2 outer wrapped several =>
    symm
    apply Node.unwrapped_of_not_single
    intro child single
    rw [← map_node_significantChildren] at single
    obtain ⟨inner, alone, _⟩ := List.map_eq_singleton_iff.mp single
    exact several inner alone
  | case3 outer bare => rw [Node.unwrapped_of_kind_ne (by simpa using bare)]

/-- The first argument of a call. -/
def firstArgument? (call : Occurrence tree) : Option (Occurrence tree) :=
  (call.child? "arguments").bind (·.significantChildren.head?)

/-- The first argument in the tree is that of the node. -/
@[simp] theorem map_node_firstArgument? (call : Occurrence tree) :
    call.firstArgument?.map node = call.node.firstArgument? := by
  rw [firstArgument?, Node.firstArgument?, ← map_node_child?, Option.map_bind, Option.bind_map]
  congr 1
  funext arguments
  simp [← map_node_significantChildren, List.head?_map]

/-! ## Reaching -/

/-- An occurrence is reached from another by steps to children that are entered. -/
def Reaches (keep : Node → Bool) : Occurrence tree → Occurrence tree → Prop :=
  Relation.ReflTransGen fun upper lower => lower ∈ upper.children ∧ keep lower.node = true

/-- One step down. -/
theorem Reaches.step {keep : Node → Bool} {upper lower : Occurrence tree}
    (inside : lower ∈ upper.children) (kept : keep lower.node = true) :
    Reaches keep upper lower := .single ⟨inside, kept⟩

/-- What is reached at all is reached if everything is entered. -/
theorem Reaches.everywhere {keep : Node → Bool} {upper lower : Occurrence tree}
    (path : Reaches keep upper lower) : Reaches (fun _ => true) upper lower := by
  induction path with
  | refl => exact .refl
  | tail _ step ih => exact .tail ih ⟨step.1, rfl⟩

/-- What is reached and is not the start was entered. -/
theorem Reaches.kept {keep : Node → Bool} {upper lower : Occurrence tree}
    (path : Reaches keep upper lower) (distinct : lower ≠ upper) : keep lower.node = true := by
  rcases Relation.ReflTransGen.cases_tail path with same | ⟨_, _, _, kept⟩
  · exact absurd same distinct
  · exact kept

/-- The way to a child is one step longer. -/
theorem way_of_mem_children {upper lower : Occurrence tree} (inside : lower ∈ upper.children) :
    ∃ index, lower.way = upper.way ++ [index] := by
  obtain ⟨index, rfl⟩ := List.mem_ofFn.mp inside
  exact ⟨index, rfl⟩

/-- The way to a child goes on from the way to its parent. -/
theorem way_extends_of_child {upper lower : Occurrence tree} (inside : lower ∈ upper.children) :
    upper.way <+: lower.way := by
  obtain ⟨index, onward⟩ := way_of_mem_children inside
  exact onward ▸ List.prefix_append _ _

/-- An occurrence has one parent. -/
theorem parent_unique {first second lower : Occurrence tree} (left : lower ∈ first.children)
    (right : lower ∈ second.children) : first = second := by
  obtain ⟨i, here⟩ := way_of_mem_children left
  obtain ⟨j, there⟩ := way_of_mem_children right
  exact eq_of_way (List.append_inj_left' (here.symm.trans there) rfl)

/-- The way to what is reached goes on from the way to the start. -/
theorem Reaches.way_extends {keep : Node → Bool} {upper lower : Occurrence tree}
    (path : Reaches keep upper lower) : upper.way <+: lower.way := by
  induction path with
  | refl => exact List.prefix_rfl
  | tail _ step ih => exact ih.trans (way_extends_of_child step.1)

/-- Two occurrences that reach each other are one. -/
theorem Reaches.antisymm {keep other : Node → Bool} {upper lower : Occurrence tree}
    (down : Reaches keep upper lower) (up : Reaches other lower upper) : upper = lower :=
  eq_of_way (down.way_extends.eq_of_length_le up.way_extends.length_le)

/-- Of two occurrences that reach a third, one reaches the other on the same steps.

Induction on the steps from the first. The last step comes from the one parent that the third
occurrence has, so the other path takes it too unless it has none. -/
theorem Reaches.compare {keep other : Node → Bool} {first second lower : Occurrence tree}
    (left : Reaches keep first lower) (right : Reaches other second lower) :
    Reaches keep first second ∨ Reaches other second first := by
  induction left with
  | refl => exact .inr right
  | tail above step ih =>
    rcases Relation.ReflTransGen.cases_tail right with rfl | ⟨parent, before, last⟩
    · exact .inl (.tail above step)
    · obtain rfl := parent_unique step.1 last.1
      exact ih before

/-- An occurrence is reached from the root if everything on the way to it is entered.

Induction on the way from its end: the last step leads from the parent, which is on the way. -/
theorem reaches_from_root {keep : Node → Bool} (lower : Occurrence tree)
    (kept : ∀ upper : Occurrence tree, upper.way ≠ [] → upper.way <+: lower.way →
      keep upper.node = true) : Reaches keep (root tree) lower := by
  obtain ⟨way, node, found⟩ := lower
  induction way using List.reverseRecOn generalizing node with
  | nil =>
    have here : (⟨[], node, found⟩ : Occurrence tree) = root tree := eq_of_way rfl
    rw [here]
    exact .refl
  | append_singleton front index ih =>
    obtain ⟨above, held, onward⟩ :=
      Option.bind_eq_some_iff.mp ((Node.at?_append _ _ _).symm.trans found)
    have taken : above.children[index]? = some node := by simpa [Node.at?] using onward
    obtain ⟨bound, _⟩ := List.getElem?_eq_some_iff.mp taken
    have child : (⟨front ++ [index], node, found⟩ : Occurrence tree) ∈
        (⟨front, above, held⟩ : Occurrence tree).children :=
      List.mem_ofFn.mpr ⟨⟨index, bound⟩, eq_of_way rfl⟩
    refine .tail (ih above held ?_) ⟨child, kept ⟨_, node, found⟩ (by simp) List.prefix_rfl⟩
    intro upper inside start
    exact kept upper inside (start.trans (List.prefix_append _ _))

/-- Everything is reached where everything is entered. -/
theorem reaches_everything (lower : Occurrence tree) :
    Reaches (fun _ => true) (root tree) lower :=
  reaches_from_root lower fun _ _ _ => rfl

/-! ## Visiting -/

/-- The children that a visit enters. -/
def entered (keep : Node → Bool) (upper : Occurrence tree) : List (Occurrence tree) :=
  upper.children.filter (keep ·.node)

/-- The children that a visit enters are those that it enters in the node. -/
@[simp] theorem map_node_entered (keep : Node → Bool) (upper : Occurrence tree) :
    (upper.entered keep).map node = upper.node.entered keep := by
  rw [Node.entered, ← map_node_children, List.filter_map]
  rfl

/-- Visits pending occurrences in document order, and enters the children that `keep` admits. -/
def walk (keep : Node → Bool) : List (Occurrence tree) → List (Occurrence tree)
  | [] => []
  | upper :: pending => upper :: walk keep (upper.entered keep ++ pending)
termination_by pending => Node.sizes (pending.map node)
decreasing_by
  have := Node.sizes_entered_lt keep upper.node
  simp only [List.map_append, map_node_entered, List.map_cons, Node.sizes_append,
    Node.sizes_cons]
  omega

/-- Visiting occurrences visits their nodes. -/
theorem map_node_walk (keep : Node → Bool) (pending : List (Occurrence tree)) :
    (walk keep pending).map node = Node.walk keep (pending.map node) := by
  fun_induction walk keep pending with
  | case1 => simp [Node.walk]
  | case2 upper pending ih => simp [Node.walk, ih]

/-- A visit goes to what can be reached from the pending occurrences. -/
theorem mem_walk {keep : Node → Bool} {pending : List (Occurrence tree)}
    {lower : Occurrence tree} :
    lower ∈ walk keep pending ↔ ∃ upper ∈ pending, Reaches keep upper lower := by
  fun_induction walk keep pending with
  | case1 => simp
  | case2 upper pending ih =>
    rw [List.mem_cons, ih]
    constructor
    · rintro (rfl | ⟨start, member, path⟩)
      · exact ⟨lower, List.mem_cons_self, .refl⟩
      · rcases List.mem_append.mp member with inside | waiting
        · obtain ⟨below, kept⟩ := List.mem_filter.mp inside
          exact ⟨upper, List.mem_cons_self, .head ⟨below, kept⟩ path⟩
        · exact ⟨start, List.mem_cons_of_mem upper waiting, path⟩
    · rintro ⟨start, member, path⟩
      rcases List.mem_cons.mp member with rfl | waiting
      · rcases Relation.ReflTransGen.cases_head path with same | ⟨next, ⟨below, kept⟩, rest⟩
        · exact .inl same.symm
        · have inside : next ∈ start.entered keep := List.mem_filter.mpr ⟨below, kept⟩
          exact .inr ⟨next, List.mem_append_left pending inside, rest⟩
      · exact .inr ⟨start, List.mem_append_right _ waiting, path⟩

/-- A visit goes to pending occurrences in turn. -/
theorem walk_append (keep : Node → Bool) (front back : List (Occurrence tree)) :
    walk keep (front ++ back) = walk keep front ++ walk keep back := by
  fun_induction walk keep front with
  | case1 => rfl
  | case2 upper pending ih => rw [List.cons_append, walk, ← List.append_assoc, ih, List.cons_append]

/-- What is pending is visited, in order. -/
theorem sublist_walk (keep : Node → Bool) (pending : List (Occurrence tree)) :
    pending.Sublist (walk keep pending) := by
  fun_induction walk keep pending with
  | case1 => exact .slnil
  | case2 upper pending ih => exact ((List.sublist_append_right _ _).trans ih).cons_cons upper

/-- What a visit to one of several occurrences goes to, a visit to all goes to, in order. -/
theorem walk_sublist_of_mem {keep : Node → Bool} {pending : List (Occurrence tree)}
    {upper : Occurrence tree} (member : upper ∈ pending) :
    (walk keep [upper]).Sublist (walk keep pending) := by
  obtain ⟨front, back, rfl⟩ := List.append_of_mem member
  have split : front ++ upper :: back = front ++ ([upper] ++ back) := rfl
  rw [split, walk_append, walk_append]
  exact (List.sublist_append_left _ _).trans (List.sublist_append_right _ _)

/-- What is chosen from a visit to each of several occurrences is chosen from a visit to all, in
order. -/
theorem flatMap_sublist_walk {keep : Node → Bool} {pending : List (Occurrence tree)}
    {choose : Occurrence tree → List (Occurrence tree)}
    (chosen : ∀ upper ∈ pending, (choose upper).Sublist (walk keep [upper])) :
    (pending.flatMap choose).Sublist (walk keep pending) := by
  induction pending with
  | nil => exact List.nil_sublist _
  | cons upper rest ih =>
    obtain ⟨here, later⟩ := List.forall_mem_cons.mp chosen
    have split : upper :: rest = [upper] ++ rest := rfl
    rw [List.flatMap_cons, split, walk_append]
    exact here.append (ih later)

/-- Nothing stands below both occurrences. -/
def Apart (first second : Occurrence tree) : Prop :=
  ∀ lower : Occurrence tree, first.way <+: lower.way → ¬ second.way <+: lower.way

/-- What stands below occurrences that are apart is apart. -/
theorem Apart.below {first second left right : Occurrence tree} (apart : Apart first second)
    (leftDown : first.way <+: left.way) (rightDown : second.way <+: right.way) :
    Apart left right :=
  fun lower here there => apart lower (leftDown.trans here) (rightDown.trans there)

/-- Nothing is apart from itself. -/
theorem Apart.ne {first second : Occurrence tree} (apart : Apart first second) :
    first ≠ second := by
  rintro rfl
  exact apart first List.prefix_rfl List.prefix_rfl

/-- Siblings are apart. -/
theorem pairwise_apart_children (upper : Occurrence tree) : upper.children.Pairwise Apart := by
  rw [children, List.pairwise_ofFn]
  intro i j before lower here there
  have same := (List.prefix_of_prefix_length_le here there (by simp [child])).eq_of_length
    (by simp [child])
  have equal : i.val = j.val := by simpa [child] using same
  exact absurd equal (Nat.ne_of_lt before)

/-- A visit to occurrences that are apart goes nowhere twice.

A visited occurrence is above what is visited from its children and apart from what else is
pending, and its children are apart from each other and, being below it, from the rest. -/
theorem nodup_walk {keep : Node → Bool} {pending : List (Occurrence tree)}
    (apart : pending.Pairwise Apart) : (walk keep pending).Nodup := by
  fun_induction walk keep pending with
  | case1 => exact List.nodup_nil
  | case2 upper pending ih =>
    obtain ⟨others, rest⟩ := List.pairwise_cons.mp apart
    have siblings : (upper.entered keep).Pairwise Apart := (pairwise_apart_children upper).filter _
    have below : ∀ lower ∈ upper.entered keep, upper.way <+: lower.way := by
      intro lower inside
      exact way_extends_of_child (List.mem_filter.mp inside).1
    rw [List.nodup_cons]
    constructor
    · rw [mem_walk]
      rintro ⟨start, member, path⟩
      rcases List.mem_append.mp member with inside | waiting
      · have same := eq_of_way ((below start inside).eq_of_length_le path.way_extends.length_le)
        subst same
        obtain ⟨index, longer⟩ := way_of_mem_children (List.mem_filter.mp inside).1
        simpa using congrArg List.length longer
      · exact others start waiting upper List.prefix_rfl path.way_extends
    · apply ih
      rw [List.pairwise_append]
      refine ⟨siblings, rest, ?_⟩
      intro lower inside other waiting
      exact (others other waiting).below (below lower inside) List.prefix_rfl

/-- The strict descendants, in document order. -/
def descendants (upper : Occurrence tree) : List (Occurrence tree) :=
  walk (fun _ => true) upper.children

/-- A visit to an occurrence that enters everything goes there and to its descendants. -/
theorem walk_singleton (upper : Occurrence tree) :
    walk (fun _ => true) [upper] = upper :: upper.descendants := by
  rw [walk, entered, List.filter_true, List.append_nil, descendants]

/-- The children are descendants, in order. -/
theorem children_sublist_descendants (upper : Occurrence tree) :
    upper.children.Sublist upper.descendants := sublist_walk _ _

/-- Without their places, the descendants are those of the node. -/
@[simp] theorem map_node_descendants (upper : Occurrence tree) :
    upper.descendants.map node = upper.node.descendants := by
  rw [descendants, map_node_walk, map_node_children, Node.descendants]

end Occurrence

/-- The nodes of a tree are what stands at the ends of its ways. -/
theorem mem_reached_iff {tree node : Node} :
    node ∈ tree.reached (fun _ => true) ↔ ∃ way, Node.at? way tree = some node := by
  have nodes := Occurrence.map_node_walk (fun _ => true) [Occurrence.root tree]
  rw [List.map_singleton, Node.walk_eq_reached, List.flatMap_singleton] at nodes
  rw [← show _ = tree.reached (fun _ => true) from nodes, List.mem_map]
  constructor
  · rintro ⟨lower, _, rfl⟩
    exact ⟨lower.way, lower.found⟩
  · rintro ⟨way, found⟩
    refine ⟨⟨way, node, found⟩, ?_, rfl⟩
    exact Occurrence.mem_walk.mpr
      ⟨Occurrence.root tree, List.mem_singleton_self _, Occurrence.reaches_everything _⟩

end ComponentAtlas.Syntax
