import ComponentAtlas.Proofs.Inventory

/-!
# What the trees show

The trees of a catalog grow from its roots, and an expansion stops where a name comes back. So
a component can be missing from all trees. It is shown exactly if steps lead to it from a key
that no key lists as a child: a walk that meets names twice can be shortened to one that does
not, and that one is a chain of the expansion.

What is not shown stands below a cycle. A key that is not shown is no root, so something leads
to it that is not shown either, and going up in this way among finitely many keys comes back to
a key that was passed. A catalog without cycles shows all its components.
-/

namespace ComponentAtlas.Component.Catalog

variable {catalog : Catalog}

/-! ## Walks and steps -/

/-- A key is another one, or steps lead to it from there. -/
abbrev Reaches (catalog : Catalog) : String → String → Prop :=
  Relation.ReflTransGen catalog.Step

/-- A walk goes on by a step from its last key. -/
theorem IsWalk.extend {start last next : String} {names : List String}
    (walk : catalog.IsWalk start (names ++ [last])) (step : catalog.Step last next) :
    catalog.IsWalk start (names ++ [last] ++ [next]) := by
  obtain ⟨present, first, steps⟩ := walk
  refine ⟨present, by simpa using first, List.isChain_append.mpr ⟨steps, .singleton next, ?_⟩⟩
  intro before ends after starts
  obtain rfl : last = before := by simpa using ends
  obtain rfl : next = after := by simpa using starts
  exact step

/-- A walk may end at any key that it meets. -/
theorem IsWalk.cut {start name : String} {front back : List String}
    (walk : catalog.IsWalk start (front ++ name :: back)) :
    catalog.IsWalk start (front ++ [name]) := by
  obtain ⟨present, first, steps⟩ := walk
  have within : front ++ [name] <+: front ++ name :: back := by simp
  exact ⟨present, by simpa using first, steps.prefix within⟩

/-- A walk reaches its last key. -/
theorem IsWalk.reaches {start last : String} {names : List String}
    (walk : catalog.IsWalk start (names ++ [last])) : catalog.Reaches start last := by
  obtain ⟨_, first, steps⟩ := walk
  obtain ⟨rest, split⟩ := List.head?_eq_some_iff.mp first
  rw [split] at steps
  refine List.relationReflTransGen_of_exists_isChain_cons rest steps ?_
  simp [← split]

/-- What is reached is reached by a walk that meets no name twice.

Induction on the steps. Where the last one leads to a name that the walk met, the walk is cut
there. -/
theorem exists_walk_of_reaches {start key : String} (present : start ∈ catalog.keys)
    (reached : catalog.Reaches start key) :
    ∃ names, catalog.IsWalk start (names ++ [key]) ∧ (names ++ [key]).Nodup := by
  induction reached with
  | refl => exact ⟨[], ⟨present, rfl, .singleton start⟩, List.nodup_singleton start⟩
  | @tail last next _ step ih =>
    obtain ⟨names, walk, distinct⟩ := ih
    by_cases met : next ∈ names ++ [last]
    · obtain ⟨front, back, split⟩ := List.append_of_mem met
      rw [split] at walk distinct
      have within : (front ++ [next]).Sublist (front ++ next :: back) := by simp
      exact ⟨front, walk.cut, distinct.sublist within⟩
    · have longer : (names ++ [last] ++ [next]).Nodup :=
        (List.perm_append_singleton next _).nodup_iff.mpr (List.nodup_cons.mpr ⟨met, distinct⟩)
      exact ⟨names ++ [last], walk.extend step, longer⟩

/-! ## Shown components -/

/-- Some tree of the catalog has a node of a name. -/
def Shows (catalog : Catalog) (name : String) : Prop :=
  ∃ tree ∈ catalog.trees, ∃ above node, above ++ [node] ∈ tree.lineages ∧ node.name = name

/-- A key that no key lists as a child. -/
def IsTop (catalog : Catalog) (key : String) : Prop :=
  key ∈ catalog.keys ∧ ∀ parent, ¬ catalog.HasChild parent key

/-- What the trees show is what can be reached from a key that no key lists as a child. -/
theorem shows_iff {key : String} :
    catalog.Shows key ↔ ∃ root, catalog.IsTop root ∧ catalog.Reaches root key := by
  constructor
  · rintro ⟨tree, member, above, node, inside, rfl⟩
    obtain ⟨root, top, expanded⟩ := List.mem_filterMap.mp member
    have chain : above.map Tree.name ++ [node.name] ∈ tree.chains :=
      List.mem_map.mpr ⟨_, inside, by simp⟩
    have walk := ((mem_chains_expand? expanded).mp chain).1
    exact ⟨root, mem_roots.mp top, walk.reaches⟩
  · rintro ⟨root, top, reached⟩
    obtain ⟨tree, expanded⟩ := exists_expand? top.1
    obtain ⟨names, walk, distinct⟩ := exists_walk_of_reaches top.1 reached
    have once : (names ++ [key]).dropLast.Nodup := distinct.sublist (List.dropLast_sublist _)
    have chain := (mem_chains_expand? expanded).mpr ⟨walk, once⟩
    obtain ⟨lineage, inside, same⟩ := List.mem_map.mp chain
    obtain ⟨above, last, rfl, _, ends⟩ := List.map_eq_append_iff.mp same
    obtain ⟨node, rfl, named⟩ := List.map_eq_singleton_iff.mp ends
    have grown : tree ∈ catalog.trees := List.mem_filterMap.mpr ⟨root, mem_roots.mpr top, expanded⟩
    exact ⟨tree, grown, above, node, inside, named⟩

/-- Below a key that is shown, keys are shown. -/
theorem Shows.step {key child : String} (shown : catalog.Shows key)
    (step : catalog.Step key child) : catalog.Shows child := by
  obtain ⟨root, top, reached⟩ := shows_iff.mp shown
  exact shows_iff.mpr ⟨root, top, .tail reached step⟩

/-- To a key that is not shown a step leads from another one. -/
theorem exists_step_of_not_shows {key : String} (present : key ∈ catalog.keys)
    (hidden : ¬ catalog.Shows key) :
    ∃ parent, ¬ catalog.Shows parent ∧ catalog.Step parent key := by
  have listed : ∃ parent, catalog.HasChild parent key := by
    by_contra none
    have top : catalog.IsTop key := ⟨present, not_exists.mp none⟩
    exact hidden (shows_iff.mpr ⟨key, top, .refl⟩)
  obtain ⟨parent, edge⟩ := listed
  have step : catalog.Step parent key := ⟨edge, present⟩
  exact ⟨parent, fun shown => hidden (shown.step step), step⟩

/-! ## Cycles -/

/-- A cycle is a row of different keys in which each leads to the next by a step, and the last
to the first. -/
def IsCycle (catalog : Catalog) (names : List String) : Prop :=
  names.Nodup ∧ ∃ start, names.head? = some start ∧ catalog.IsWalk start (names ++ [start])

/-- Above a walk all of whose names have a property there is a cycle of names that have it, if
to each such name a step leads from one.

Induction on the room that the walk leaves. A step from a name that the walk met closes a
cycle, and another one makes the walk longer. -/
theorem exists_cycle_of_walk {holds : String → Prop}
    (climbs : ∀ name, holds name → ∃ parent, holds parent ∧ catalog.Step parent name)
    {start : String} {names : List String} (walk : catalog.IsWalk start names)
    (distinct : names.Nodup) (held : ∀ name ∈ names, holds name) :
    ∃ cycle, catalog.IsCycle cycle ∧ ∀ name ∈ cycle, holds name := by
  induction room : catalog.room names using Nat.strong_induction_on generalizing start names with
  | _ bound ih =>
  obtain ⟨present, first, steps⟩ := walk
  obtain ⟨rest, rfl⟩ := List.head?_eq_some_iff.mp first
  obtain ⟨parent, higher, step⟩ := climbs start (held start List.mem_cons_self)
  by_cases met : parent ∈ start :: rest
  · obtain ⟨front, back, split⟩ := List.append_of_mem met
    rw [split] at first steps distinct held
    have walk : catalog.IsWalk start (front ++ [parent]) := IsWalk.cut ⟨present, first, steps⟩
    have within : (front ++ [parent]).Sublist (front ++ parent :: back) := by simp
    have closed := walk.extend step
    exact ⟨front ++ [parent], ⟨distinct.sublist within, start, walk.2.1, closed⟩,
      fun name member => held name (within.subset member)⟩
  · have above : parent ∈ catalog.keys := step.1.present
    have longer : catalog.IsWalk parent (parent :: start :: rest) :=
      ⟨above, rfl, .cons_cons step steps⟩
    exact ih _ (room ▸ room_cons_lt above met) longer (List.nodup_cons.mpr ⟨met, distinct⟩)
      (List.forall_mem_cons.mpr ⟨higher, held⟩) rfl

/-- A key that is not shown is reached from a cycle that is not shown. -/
theorem exists_cycle_of_not_shows {key : String} (present : key ∈ catalog.keys)
    (hidden : ¬ catalog.Shows key) :
    ∃ cycle, catalog.IsCycle cycle ∧
      ∀ name ∈ cycle, ¬ catalog.Shows name ∧ catalog.Reaches name key := by
  have climbs : ∀ name, name ∈ catalog.keys ∧ ¬ catalog.Shows name ∧ catalog.Reaches name key →
      ∃ parent, (parent ∈ catalog.keys ∧ ¬ catalog.Shows parent ∧ catalog.Reaches parent key) ∧
        catalog.Step parent name := by
    rintro name ⟨known, unseen, reached⟩
    obtain ⟨parent, above, step⟩ := exists_step_of_not_shows known unseen
    exact ⟨parent, ⟨step.1.present, above, .head step reached⟩, step⟩
  have walk : catalog.IsWalk key [key] := ⟨present, rfl, .singleton key⟩
  have held : ∀ name ∈ [key],
      name ∈ catalog.keys ∧ ¬ catalog.Shows name ∧ catalog.Reaches name key := by
    intro name member
    obtain rfl := List.mem_singleton.mp member
    exact ⟨present, hidden, .refl⟩
  obtain ⟨cycle, closed, all⟩ :=
    exists_cycle_of_walk climbs walk (List.nodup_singleton key) held
  exact ⟨cycle, closed, fun name member => (all name member).2⟩

/-- A key that is shown stands below a root. -/
theorem roots_ne_nil_of_shows {key : String} (shown : catalog.Shows key) : catalog.roots ≠ [] := by
  obtain ⟨root, top, _⟩ := shows_iff.mp shown
  exact List.ne_nil_of_mem (mem_roots.mpr top)

/-- The trees of a catalog show what steps lead to from the keys that no key lists as a child.
A key that they do not show is reached from a name on a cycle that no such key leads to. So a
catalog without cycles shows all its keys, and has a root if it has a key at all.

What is reached is reached by a walk of different names, which is a chain of a tree. What is
not shown has something above it that is not shown, up to a name that comes back. -/
theorem shown_exactly_reached (catalog : Catalog) :
    (∀ key, catalog.Shows key ↔ ∃ root, catalog.IsTop root ∧ catalog.Reaches root key) ∧
    (∀ key ∈ catalog.keys, ¬ catalog.Shows key →
      ∃ cycle, catalog.IsCycle cycle ∧ (∃ name ∈ cycle, catalog.Reaches name key) ∧
        ∀ name ∈ cycle, ∀ root, catalog.IsTop root → ¬ catalog.Reaches root name) ∧
    ((∀ cycle, ¬ catalog.IsCycle cycle) →
      (∀ key ∈ catalog.keys, catalog.Shows key) ∧
        (catalog.keys ≠ [] → catalog.roots ≠ [])) := by
  refine ⟨fun _ => shows_iff, ?_, ?_⟩
  · intro key present hidden
    obtain ⟨cycle, closed, all⟩ := exists_cycle_of_not_shows present hidden
    obtain ⟨start, first, _⟩ := closed.2
    have member : start ∈ cycle := List.mem_of_head? first
    refine ⟨cycle, closed, ⟨start, member, (all start member).2⟩, ?_⟩
    intro name listed root top reached
    exact (all name listed).1 (shows_iff.mpr ⟨root, top, reached⟩)
  · intro acyclic
    have shown : ∀ key ∈ catalog.keys, catalog.Shows key := by
      intro key present
      by_contra hidden
      obtain ⟨cycle, closed, _⟩ := exists_cycle_of_not_shows present hidden
      exact acyclic cycle closed
    refine ⟨shown, fun nonempty => ?_⟩
    obtain ⟨key, present⟩ := List.exists_mem_of_ne_nil _ nonempty
    exact roots_ne_nil_of_shows (shown key present)

/-- Two components that render each other hide each other and what they render; the component
beside them is shown. -/
example :
    let catalog := ofPairs [
      ("Hen", ⟨"Hen", "hen", ["Egg"], ["Egg"]⟩),
      ("Egg", ⟨"Egg", "egg", ["Hen", "Shell"], ["Hen"]⟩),
      ("Shell", ⟨"Shell", "shell", [], ["Egg"]⟩),
      ("Nest", ⟨"Nest", "nest", [], []⟩)]
    catalog.roots = ["Nest"] ∧ catalog.trees.flatMap Tree.chains = [["Nest"]] := by
  decide +kernel

end ComponentAtlas.Component.Catalog
