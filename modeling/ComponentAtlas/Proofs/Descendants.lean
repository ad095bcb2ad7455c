import ComponentAtlas.Proofs.Precedence
import Mathlib.Logic.Function.Iterate

/-!
# Everything below a node

What stands below a node is visited with a stack. A round takes the tree on top off the stack and
puts its children on in reverse, so that the first child is on top next. At any time the stack
stands for what is still to be visited, in order. A round takes one node off that, so the visit
comes to its end after as many rounds as there are nodes below the start, of whatever shape the
tree is.

Nodes that look alike are told apart by the ways to them. Every way that leads below the start is
taken once. A node is visited before whatever stands below it, and whatever stands below a child
before what stands below a later one: this is the order of the ways, and no other.
-/

namespace ComponentAtlas.Syntax

namespace Node

/-! ## Rounds of a visit -/

/-- A round of a visit with a stack, the last tree of which is on top: the top is taken off, and its
children are put on, the first one on top. -/
def round (stack : List Node) : List Node :=
  stack.dropLast ++ (stack.getLast?.toList.flatMap children).reverse

/-- An empty stack stays empty. -/
@[simp] theorem round_nil : round [] = [] := rfl

/-- The top of the stack is replaced by its children, the last of them first. -/
@[simp] theorem round_concat (stack : List Node) (top : Node) :
    round (stack ++ [top]) = stack ++ top.children.reverse := by
  simp [round]

/-- After some rounds the stack stands for what is left of the visit.

Induction on the rounds: the first of them visits the top, and what is left of the visit is a visit
of what it leaves on the stack. -/
theorem walk_iterate_round (count : Nat) (stack : List Node) :
    walk (fun _ => true) (round^[count] stack).reverse =
      (walk (fun _ => true) stack.reverse).drop count := by
  induction count generalizing stack with
  | zero => rfl
  | succ count ih =>
    rw [Function.iterate_succ_apply, ih]
    rcases List.eq_nil_or_concat stack with rfl | ⟨below, top, rfl⟩
    · simp [walk]
    · simp [walk, entered]

/-- The first node to be visited is the first that is pending. -/
theorem head?_walk (keep : Node → Bool) (pending : List Node) :
    (walk keep pending).head? = pending.head? := by
  cases pending <;> simp [walk]

/-- A visit goes nowhere exactly if nothing is pending. -/
theorem walk_eq_nil_iff (keep : Node → Bool) (pending : List Node) :
    walk keep pending = [] ↔ pending = [] := by
  rw [← List.head?_eq_none_iff, head?_walk, List.head?_eq_none_iff]

/-- A visit that enters everything goes to every node once. -/
theorem length_walk (pending : List Node) :
    (walk (fun _ => true) pending).length = sizes pending := by
  fun_induction walk (fun _ => true) pending with
  | case1 => simp
  | case2 node pending ih =>
    rw [List.length_cons, ih, sizes_append, sizes_cons, size_eq, entered, List.filter_true]
    omega

/-- The node that a round visits is the one on top of the stack. -/
theorem getLast?_iterate_round (tree : Node) (count : Nat) :
    (round^[count] tree.children.reverse).getLast? = tree.descendants[count]? := by
  rw [← List.head?_reverse, ← head?_walk (fun _ => true), walk_iterate_round, List.reverse_reverse,
    List.head?_drop, descendants]

/-- Nothing is left on the stack after as many rounds as there are nodes below the start, and not
before. -/
theorem iterate_round_eq_nil_iff (tree : Node) (count : Nat) :
    round^[count] tree.children.reverse = [] ↔ tree.size ≤ count + 1 := by
  rw [← List.reverse_eq_nil_iff, ← walk_eq_nil_iff fun _ => true, walk_iterate_round,
    List.reverse_reverse, List.drop_eq_nil_iff, length_walk, size_eq]
  omega

end Node

/-! ## Document order -/

/-- A way comes before another exactly if the other goes on from it, or if the two part and it takes
the earlier child where they do. -/
theorem way_lt_iff {first second : List Nat} :
    first < second ↔ (first <+: second ∧ first ≠ second) ∨ TurnsBefore first second := by
  constructor
  · intro earlier
    induction first generalizing second with
    | nil =>
      refine .inl ⟨List.nil_prefix, ?_⟩
      rintro rfl
      exact List.lt_irrefl _ earlier
    | cons i left ih =>
      cases second with
      | nil => exact absurd earlier (List.not_lt_nil _)
      | cons j right =>
        rcases List.cons_lt_cons_iff.mp earlier with turn | ⟨rfl, later⟩
        · exact .inr ⟨[], i, j, left, right, turn, rfl, rfl⟩
        · rcases ih later with ⟨onward, other⟩ | ⟨shared, k, l, inner, outer, turn, rfl, rfl⟩
          · exact .inl ⟨(List.prefix_cons_inj i).mpr onward, by simpa using other⟩
          · exact .inr ⟨i :: shared, k, l, inner, outer, turn, rfl, rfl⟩
  · rintro (⟨⟨rest, rfl⟩, other⟩ | parted)
    · exact way_lt_of_onward (by simpa using other)
    · exact parted.lt

namespace Occurrence

variable {tree : Node}

/-- The start of a visit that enters everything is not visited again. -/
theorem nodup_root_descendants (tree : Node) : (root tree :: (root tree).descendants).Nodup := by
  rw [← walk_singleton]
  exact nodup_walk (List.pairwise_singleton _ _)

/-- What stands below the root is visited, and nothing else. -/
theorem mem_descendants_root {lower : Occurrence tree} :
    lower ∈ (root tree).descendants ↔ lower.way ≠ [] := by
  obtain ⟨absent, -⟩ := List.nodup_cons.mp (nodup_root_descendants tree)
  constructor
  · intro visited start
    have same : lower = root tree := eq_of_way start
    exact absent (same ▸ visited)
  · intro below
    have visited : lower ∈ walk (fun _ => true) [root tree] :=
      mem_walk.mpr ⟨root tree, List.mem_singleton_self _, reaches_everything lower⟩
    rw [walk_singleton] at visited
    rcases List.mem_cons.mp visited with rfl | inside
    · exact absurd rfl below
    · exact inside

/-- The descendants of a tree follow one another as their ways do. -/
theorem pairwise_way_descendants (tree : Node) :
    (root tree).descendants.Pairwise fun first second => first.way < second.way := by
  have ordered : (walk (fun _ => true) [root tree]).Pairwise
      fun first second => first.way < second.way :=
    pairwise_way_walk (List.pairwise_singleton _ _)
  rw [walk_singleton] at ordered
  exact (List.pairwise_cons.mp ordered).2

/-- Of two occurrences below the root the one with the earlier way is visited first. -/
theorem pair_sublist_descendants_iff {first second : Occurrence tree} :
    [first, second].Sublist (root tree).descendants ↔
      first.way ≠ [] ∧ first.way < second.way := by
  have ordered := pairwise_way_descendants tree
  constructor
  · intro inside
    have one : first ∈ (root tree).descendants := inside.subset (by simp)
    have pair := ordered.sublist inside
    exact ⟨mem_descendants_root.mp one, (List.pairwise_cons.mp pair).1 second (by simp)⟩
  · rintro ⟨below, earlier⟩
    have further : second.way ≠ [] := by
      intro start
      rw [start] at earlier
      exact List.not_lt_nil _ earlier
    obtain ⟨front, back, split⟩ := List.append_of_mem (mem_descendants_root.mpr below)
    have other := mem_descendants_root.mpr further
    rw [split, List.pairwise_append, List.pairwise_cons] at ordered
    rw [split] at other ⊢
    rcases List.mem_append.mp other with before | after
    · -- In front of the first stand only occurrences with earlier ways.
      have reversed := ordered.2.2 second before first List.mem_cons_self
      exact absurd reversed (List.lt_asymm earlier)
    · rcases List.mem_cons.mp after with rfl | later
      · exact absurd earlier (List.lt_irrefl _)
      · exact ((List.singleton_sublist.mpr later).cons_cons first).trans
          (List.sublist_append_right front _)

end Occurrence

/-- There is markup among the descendants of a node exactly if some way below it leads to markup. -/
theorem containsMarkup_iff {tree : Node} :
    tree.containsMarkup = true ↔
      ∃ way node, way ≠ [] ∧ Node.at? way tree = some node ∧ node.isMarkup = true := by
  have nodes := Occurrence.map_node_descendants (Occurrence.root tree)
  rw [Node.containsMarkup, List.any_eq_true]
  constructor
  · rintro ⟨node, visited, markup⟩
    obtain ⟨lower, inside, rfl⟩ := List.mem_map.mp (nodes.symm ▸ visited)
    exact ⟨lower.way, lower.node, Occurrence.mem_descendants_root.mp inside, lower.found, markup⟩
  · rintro ⟨way, node, below, found, markup⟩
    have inside : (⟨way, node, found⟩ : Occurrence tree) ∈ (Occurrence.root tree).descendants :=
      Occurrence.mem_descendants_root.mpr below
    exact ⟨node, nodes ▸ List.mem_map_of_mem inside, markup⟩

/-- The strict descendants of a node come one with each round of a visit with a stack, which is
empty after as many rounds as there are nodes below the start and not before. They are the nodes of
occurrences of which none comes twice, and which are all but the start. Of two occurrences the first
comes before the second exactly if the second stands below it, or if the first stands below an
earlier child than the second where the ways to them part. So there is markup among the descendants
exactly if there is some at any depth below the start.

The stack stands for what is left of the visit, and the order of a visit is the order of ways. -/
theorem descendants_in_document_order (tree : Node) :
    (∀ count, (Node.round^[count] tree.children.reverse).getLast? = tree.descendants[count]?) ∧
    (∀ count, Node.round^[count] tree.children.reverse = [] ↔ tree.size ≤ count + 1) ∧
    (Occurrence.root tree).descendants.map Occurrence.node = tree.descendants ∧
    (Occurrence.root tree).descendants.Nodup ∧
    (∀ lower : Occurrence tree, lower ∈ (Occurrence.root tree).descendants ↔ lower.way ≠ []) ∧
    (∀ first second : Occurrence tree,
      [first, second].Sublist (Occurrence.root tree).descendants ↔
        first.way ≠ [] ∧
          ((first.way <+: second.way ∧ first.way ≠ second.way) ∨
            TurnsBefore first.way second.way)) ∧
    (tree.containsMarkup = true ↔
      ∃ way node, way ≠ [] ∧ Node.at? way tree = some node ∧ node.isMarkup = true) := by
  refine ⟨Node.getLast?_iterate_round tree, Node.iterate_round_eq_nil_iff tree,
    Occurrence.map_node_descendants _,
    (List.nodup_cons.mp (Occurrence.nodup_root_descendants tree)).2,
    fun _ => Occurrence.mem_descendants_root, ?_, containsMarkup_iff⟩
  intro first second
  rw [Occurrence.pair_sublist_descendants_iff, way_lt_iff]

end ComponentAtlas.Syntax
