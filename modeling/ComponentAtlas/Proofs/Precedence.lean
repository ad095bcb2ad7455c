import ComponentAtlas.Proofs.Occurrence

/-!
# The order of a visit

Document order is the order of ways: a way comes before those that go on from it, and of two ways
that part, the one that turns off to the earlier child comes first. So it is the lexicographic
order of the child numbers. A visit goes to occurrences in this order, whatever it leaves out.
-/

namespace ComponentAtlas.Syntax

/-- Two ways part, and the first one takes the earlier child where they do. -/
def TurnsBefore (first second : List Nat) : Prop :=
  ∃ shared i j left right, i < j ∧ first = shared ++ i :: left ∧ second = shared ++ j :: right

namespace TurnsBefore

/-- Ways that part stay parted when they go on. -/
theorem onward {first second left right : List Nat} (parted : TurnsBefore first second)
    (leftOn : first <+: left) (rightOn : second <+: right) : TurnsBefore left right := by
  obtain ⟨shared, i, j, inner, outer, earlier, rfl, rfl⟩ := parted
  obtain ⟨more, rfl⟩ := leftOn
  obtain ⟨rest, rfl⟩ := rightOn
  exact ⟨shared, i, j, inner ++ more, outer ++ rest, earlier, by simp, by simp⟩

/-- Of two ways that part, the one that takes the earlier child comes first. -/
theorem lt {first second : List Nat} (parted : TurnsBefore first second) : first < second := by
  obtain ⟨shared, i, j, left, right, earlier, rfl, rfl⟩ := parted
  induction shared with
  | nil => exact List.cons_lt_cons_iff.mpr (.inl earlier)
  | cons step _ ih => exact List.cons_lt_cons_iff.mpr (.inr ⟨rfl, ih⟩)

end TurnsBefore

/-- A way comes before those that go on from it. -/
theorem way_lt_of_onward {way rest : List Nat} (further : rest ≠ []) : way < way ++ rest := by
  induction way with
  | nil =>
    obtain ⟨step, later, rfl⟩ := List.exists_cons_of_ne_nil further
    exact List.nil_lt_cons step later
  | cons step _ ih => exact List.cons_lt_cons_iff.mpr (.inr ⟨rfl, ih⟩)

namespace Occurrence

variable {tree : Node}

/-- The ways to the children of an occurrence part there, in the order of the children. -/
theorem pairwise_turnsBefore_children (upper : Occurrence tree) :
    upper.children.Pairwise fun first second => TurnsBefore first.way second.way := by
  rw [children, List.pairwise_ofFn]
  intro i j earlier
  exact ⟨upper.way, i, j, [], [], earlier, rfl, rfl⟩

/-- A visit to occurrences whose ways part in order goes to occurrences in document order.

The way to a visited occurrence goes on to its children, which part from each other in order, and
parts from the way to whatever else is pending. -/
theorem pairwise_way_walk {keep : Node → Bool} {pending : List (Occurrence tree)}
    (parted : pending.Pairwise fun first second => TurnsBefore first.way second.way) :
    (walk keep pending).Pairwise fun first second => first.way < second.way := by
  fun_induction walk keep pending with
  | case1 => exact .nil
  | case2 upper pending ih =>
    obtain ⟨others, rest⟩ := List.pairwise_cons.mp parted
    have inside : ∀ lower ∈ upper.entered keep, ∃ index, lower.way = upper.way ++ [index] :=
      fun lower entered => way_of_mem_children (List.mem_filter.mp entered).1
    have below : ∀ lower ∈ upper.entered keep, upper.way <+: lower.way := by
      intro lower entered
      obtain ⟨index, onward⟩ := inside lower entered
      exact onward ▸ List.prefix_append _ _
    rw [List.pairwise_cons]
    constructor
    · intro lower visited
      obtain ⟨start, member, path⟩ := mem_walk.mp visited
      obtain ⟨further, onward⟩ := path.way_extends
      rcases List.mem_append.mp member with entered | waiting
      · obtain ⟨index, step⟩ := inside start entered
        rw [← onward, step, List.append_assoc]
        exact way_lt_of_onward (by simp)
      · exact ((others start waiting).onward List.prefix_rfl ⟨further, onward⟩).lt
    · apply ih
      rw [List.pairwise_append]
      refine ⟨(pairwise_turnsBefore_children upper).filter _, rest, ?_⟩
      intro lower entered other waiting
      exact (others other waiting).onward (below lower entered) List.prefix_rfl

/-- A visit that leaves out nothing with a property finds the first occurrence with it in document
order. -/
theorem find?_walk_eq_some_iff {keep test : Node → Bool}
    (reached : ∀ lower : Occurrence tree, test lower.node = true → Reaches keep (root tree) lower)
    {first : Occurrence tree} :
    (walk keep [root tree]).find? (test ·.node) = some first ↔
      test first.node = true ∧
        ∀ lower : Occurrence tree, test lower.node = true → ¬ lower.way < first.way := by
  have visited (lower : Occurrence tree) (passes : test lower.node = true) :
      lower ∈ walk keep [root tree] :=
    mem_walk.mpr ⟨root tree, List.mem_singleton_self _, reached lower passes⟩
  have least {found : Occurrence tree}
      (search : (walk keep [root tree]).find? (test ·.node) = some found)
      (lower : Occurrence tree) (passes : test lower.node = true) :
      ¬ lower.way < found.way := by
    obtain ⟨_, before, after, split, none⟩ := List.find?_eq_some_iff_append.mp search
    have ordered : (walk keep [root tree]).Pairwise fun first second => first.way < second.way :=
      pairwise_way_walk (List.pairwise_singleton _ _)
    rw [split, List.pairwise_append, List.pairwise_cons] at ordered
    rcases List.mem_append.mp (split ▸ visited lower passes) with earlier | later
    · have fails := none lower earlier
      simp [passes] at fails
    · rcases List.mem_cons.mp later with rfl | behind
      · exact List.lt_irrefl _
      · exact List.lt_asymm (ordered.2.1.1 lower behind)
  constructor
  · intro search
    exact ⟨(List.find?_eq_some_iff_append.mp search).1, least search⟩
  · rintro ⟨passes, earliest⟩
    have finds : ((walk keep [root tree]).find? (test ·.node)).isSome = true := by
      rw [List.find?_isSome]
      exact ⟨first, visited first passes, passes⟩
    obtain ⟨found, search⟩ := Option.isSome_iff_exists.mp finds
    have fits := (List.find?_eq_some_iff_append.mp search).1
    have same := List.le_antisymm (List.not_lt.mp (least search first passes))
      (List.not_lt.mp (earliest found fits))
    rw [search, eq_of_way same]

end Occurrence

end ComponentAtlas.Syntax
