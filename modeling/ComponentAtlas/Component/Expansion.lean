import ComponentAtlas.Component.Catalog
import ComponentAtlas.Component.Tree
import ComponentAtlas.Log.Entry

/-!
# Expanding components to trees

A component is expanded into the tree of all that it renders. A component that occurs among
its own ancestors becomes a leaf with a note; on different branches it is expanded each time.
Every step down adds an ancestor, so no branch is longer than the catalog.

`Catalog.expandBelow` is the expansion by recursion on the ancestors that are still possible.
`Catalog.expand?` computes it with an explicit row of unfinished ancestors.

The roots of a catalog are the keys that no record lists as a child. They alone are expanded
for a report.
-/

namespace ComponentAtlas.Component

/-- The note of an occurrence that is its own ancestor. -/
def cycleNote : String := "Cycle detected"

namespace Catalog

/-- The number of keys that are no ancestors yet. -/
def room (catalog : Catalog) (ancestors : List String) : Nat :=
  catalog.keys.countP fun key => !ancestors.contains key

/-- A new ancestor takes one key away. -/
theorem room_cons_lt {catalog : Catalog} {ancestors : List String} {key : String}
    (present : key ∈ catalog.keys) (fresh : key ∉ ancestors) :
    catalog.room (key :: ancestors) < catalog.room ancestors := by
  unfold room
  generalize catalog.keys = keys at present
  induction keys with
  | nil => cases present
  | cons head rest ih =>
    have fewer : rest.countP (fun other => !(key :: ancestors).contains other) ≤
        rest.countP (fun other => !ancestors.contains other) := by
      apply List.countP_mono_left
      intro other _
      simp
    by_cases same : head = key
    · subst same
      simp [fresh] at fewer ⊢
      omega
    · have member : key ∈ rest := by
        cases present with
        | head => exact absurd rfl same
        | tail _ later => exact later
      have smaller := ih member
      by_cases old : head ∈ ancestors <;> simp [old, same] at smaller ⊢ <;> omega

/-- The expansion of a component whose ancestors, itself among them, are given. Children that
the catalog does not hold are dropped. -/
def expandBelow (catalog : Catalog) (ancestors : List String) (name : String)
    (record : Record) : Tree :=
  { name, filePath := record.filePath, note := none
    children := record.children.filterMap fun child =>
      match _found : catalog.get? child with
      | none => none
      | some inner =>
        if _known : child ∈ ancestors then some ⟨child, inner.filePath, some cycleNote, []⟩
        else some (catalog.expandBelow (child :: ancestors) child inner) }
termination_by catalog.room ancestors
decreasing_by exact room_cons_lt (mem_keys_of_get? _found) _known

/-- The sum of costs. -/
def total (costs : List Nat) : Nat := costs.foldr (· + ·) 0

/-- Nothing costs nothing. -/
@[simp] theorem total_nil : total [] = 0 := rfl

/-- The first cost and the others make up the sum. -/
@[simp] theorem total_cons (cost : Nat) (rest : List Nat) :
    total (cost :: rest) = cost + total rest := rfl

/-- The steps that a pending child costs. -/
def cost (catalog : Catalog) (ancestors : List String) (child : String) : Nat :=
  match _found : catalog.get? child with
  | none => 1
  | some inner =>
    if _known : child ∈ ancestors then 1
    else 2 + total (inner.children.map (catalog.cost (child :: ancestors)))
termination_by catalog.room ancestors
decreasing_by exact room_cons_lt (mem_keys_of_get? _found) _known

/-- An occurrence some of whose children are expanded, the last of them first, and some
pending. Its ancestors include itself. -/
structure Growing where
  name : String
  filePath : String
  ancestors : List String
  grown : List Tree
  pending : List String

/-- The steps that an occurrence costs until it is complete. -/
def Growing.cost (catalog : Catalog) (node : Growing) : Nat :=
  1 + total (node.pending.map (catalog.cost node.ancestors))

/-- Goes on expanding below a row of growing ancestors, the nearest first. -/
def grow (catalog : Catalog) (node : Growing) (above : List Growing) : Tree :=
  match node with
  | ⟨name, filePath, ancestors, grown, child :: later⟩ =>
    match _found : catalog.get? child with
    | none => catalog.grow ⟨name, filePath, ancestors, grown, later⟩ above
    | some inner =>
      if _known : child ∈ ancestors then
        let leaf : Tree := ⟨child, inner.filePath, some cycleNote, []⟩
        catalog.grow ⟨name, filePath, ancestors, leaf :: grown, later⟩ above
      else
        catalog.grow ⟨child, inner.filePath, child :: ancestors, [], inner.children⟩
          (⟨name, filePath, ancestors, grown, later⟩ :: above)
  | ⟨name, filePath, _, grown, []⟩ =>
    let tree : Tree := ⟨name, filePath, none, grown.reverse⟩
    match above with
    | [] => tree
    | parent :: rest => catalog.grow { parent with grown := tree :: parent.grown } rest
termination_by node.cost catalog + total (above.map (Growing.cost catalog))
decreasing_by
  · have step : catalog.cost ancestors child = 1 := by rw [cost]; split <;> simp_all
    simp only [Growing.cost, List.map_cons, total_cons]; omega
  · have step : catalog.cost ancestors child = 1 := by
      rw [cost]; split
      · rfl
      · simp_all
    simp only [Growing.cost, List.map_cons, total_cons]; omega
  · have step : catalog.cost ancestors child =
        2 + total (inner.children.map (catalog.cost (child :: ancestors))) := by
      rw [cost]; split
      · simp_all
      · rename_i other same
        have equal : inner = other := by simpa [_found] using same
        simp [_known, equal]
    simp only [Growing.cost, List.map_cons, total_cons]; omega
  · simp only [Growing.cost, List.map_cons, total_cons]; omega

/-- The expansion of a component, if the catalog holds it. -/
def expand? (catalog : Catalog) (name : String) : Option Tree :=
  (catalog.get? name).map fun record =>
    catalog.grow ⟨name, record.filePath, [name], [], record.children⟩ []

/-- The keys that no record lists as a child, in order. -/
def roots (catalog : Catalog) : List String :=
  let used := catalog.records.flatMap (·.children)
  catalog.keys.filter (!used.contains ·)

/-- The expansions of the roots, in order. -/
def trees (catalog : Catalog) : List Tree := catalog.roots.filterMap catalog.expand?

/-- What is to be said when the trees of a catalog are built. -/
def treesEntry (catalog : Catalog) : Log.Entry :=
  ⟨.debug, Log.Channel.trees,
    s!"Built component tree: {catalog.size} components, {catalog.roots.length} roots"⟩

end Catalog

end ComponentAtlas.Component
