import ComponentAtlas.Component.Expansion
import ComponentAtlas.Proofs.Parents
import Mathlib.Data.List.Chain
import Mathlib.Data.List.Nodup

/-!
# Expansions and walks

A node of a tree is told from others by its lineage, the nodes from the root down to it. The
expansion of a component has one node for each walk through the catalog that starts at the
component and meets no name twice before its last step. A walk that comes back to a name ends
there, in a leaf with the cycle note.

The loop with growing ancestors is first shown to be the recursion on possible ancestors. The
laws of the expansion are then inductions on the room that the ancestors leave.
-/

namespace ComponentAtlas.Component

namespace Tree

/-! ## Lineages -/

/-- The lineage of each node, in document order: the nodes from the root down to it. -/
def lineages : Tree → List (List Tree)
  | tree@⟨_, _, _, children⟩ => [tree] :: (lineagesBelow children).map (tree :: ·)
where
  /-- The lineages of the nodes of a list of trees. -/
  lineagesBelow : List Tree → List (List Tree)
    | [] => []
    | child :: rest => lineages child ++ lineagesBelow rest

/-- The names along each lineage. -/
def chains (tree : Tree) : List (List String) := tree.lineages.map (·.map name)

/-- The lineages below trees are those of each in turn. -/
theorem lineagesBelow_eq (children : List Tree) :
    lineages.lineagesBelow children = children.flatMap lineages := by
  induction children with
  | nil => simp [lineages.lineagesBelow]
  | cons child rest ih => rw [lineages.lineagesBelow, ih, List.flatMap_cons]

/-- The lineages of a tree start at its root, and go on in its children. -/
theorem lineages_eq (tree : Tree) :
    tree.lineages = [tree] :: (tree.children.flatMap lineages).map (tree :: ·) := by
  cases tree
  rw [lineages, lineagesBelow_eq]

/-- A lineage is that of the root, or a lineage of a child below the root. -/
theorem mem_lineages {tree : Tree} {lineage : List Tree} :
    lineage ∈ tree.lineages ↔ lineage = [tree] ∨
      ∃ child ∈ tree.children, ∃ rest ∈ child.lineages, lineage = tree :: rest := by
  rw [lineages_eq, List.mem_cons, List.mem_map]
  apply or_congr_right
  constructor
  · rintro ⟨rest, member, rfl⟩
    obtain ⟨child, listed, inside⟩ := List.mem_flatMap.mp member
    exact ⟨child, listed, rest, inside, rfl⟩
  · rintro ⟨child, listed, rest, inside, rfl⟩
    exact ⟨rest, List.mem_flatMap.mpr ⟨child, listed, inside⟩, rfl⟩

/-- A node with the nodes above it is the root with none, or stands below the root in a child. -/
theorem append_mem_lineages {tree node : Tree} {above : List Tree} :
    above ++ [node] ∈ tree.lineages ↔ (above = [] ∧ node = tree) ∨
      ∃ child ∈ tree.children, ∃ higher, above = tree :: higher ∧
        higher ++ [node] ∈ child.lineages := by
  rw [mem_lineages]
  cases above with
  | nil =>
    have nonempty : ∀ child : Tree, [] ∉ child.lineages := by
      intro child member
      rcases mem_lineages.mp member with none | ⟨_, _, _, _, none⟩ <;> cases none
    simp [nonempty]
  | cons first higher =>
    constructor
    · rintro (alone | ⟨child, listed, rest, inside, split⟩)
      · simp at alone
      · obtain ⟨rfl, rfl⟩ := List.cons_eq_cons.mp split
        exact .inr ⟨child, listed, higher, rfl, inside⟩
    · rintro (⟨none, _⟩ | ⟨child, listed, rest, split, inside⟩)
      · cases none
      · obtain ⟨rfl, rfl⟩ := List.cons_eq_cons.mp split
        exact .inr ⟨child, listed, _, inside, rfl⟩

/-- A chain is the name of the root, or goes on from there with a chain of a child. -/
theorem chains_eq (tree : Tree) :
    tree.chains = [tree.name] :: (tree.children.flatMap chains).map (tree.name :: ·) := by
  rw [chains, lineages_eq, List.map_cons, List.map_map, List.map_flatMap, List.map_flatMap]
  simp [chains, Function.comp_def]

/-- A chain of names is that of the root, or a chain of a child below it. -/
theorem mem_chains {tree : Tree} {names : List String} :
    names ∈ tree.chains ↔ names = [tree.name] ∨
      ∃ child ∈ tree.children, ∃ rest ∈ child.chains, names = tree.name :: rest := by
  rw [chains_eq, List.mem_cons, List.mem_map]
  apply or_congr_right
  constructor
  · rintro ⟨rest, member, rfl⟩
    obtain ⟨child, listed, inside⟩ := List.mem_flatMap.mp member
    exact ⟨child, listed, rest, inside, rfl⟩
  · rintro ⟨child, listed, rest, inside, rfl⟩
    exact ⟨rest, List.mem_flatMap.mpr ⟨child, listed, inside⟩, rfl⟩

/-- A chain starts with the name of the root. -/
theorem head?_of_mem_chains {tree : Tree} {names : List String} (member : names ∈ tree.chains) :
    names.head? = some tree.name := by
  rcases mem_chains.mp member with rfl | ⟨_, _, _, _, rfl⟩ <;> rfl

/-- The lineages tell nodes apart by their names, if siblings have different names and the
chains below each do not repeat. -/
theorem nodup_chains {tree : Tree} (siblings : (tree.children.map name).Nodup)
    (below : ∀ child ∈ tree.children, child.chains.Nodup) : tree.chains.Nodup := by
  have apart : (tree.children.flatMap chains).Nodup := by
    rw [List.nodup_flatMap]
    refine ⟨below, ?_⟩
    rw [List.nodup_iff_pairwise_ne, List.pairwise_map] at siblings
    apply siblings.imp
    intro first second different names left right
    have equal := (head?_of_mem_chains left).symm.trans (head?_of_mem_chains right)
    exact different (Option.some.inj equal)
  rw [chains_eq, List.nodup_cons]
  constructor
  · rw [List.mem_map]
    rintro ⟨rest, member, same⟩
    obtain ⟨child, _, inside⟩ := List.mem_flatMap.mp member
    have empty : rest = [] := (List.cons_eq_cons.mp same).2
    have start := head?_of_mem_chains inside
    simp [empty] at start
  · exact apart.map fun _ _ same => (List.cons_eq_cons.mp same).2

end Tree

namespace Catalog

/-! ## The loop and the recursion -/

/-- What a child becomes below given ancestors: nothing if it is no key, a leaf with the cycle
note if it is an ancestor, and its own expansion otherwise. -/
def expandChild? (catalog : Catalog) (ancestors : List String) (child : String) : Option Tree :=
  (catalog.get? child).map fun record =>
    if child ∈ ancestors then ⟨child, record.filePath, some cycleNote, []⟩
    else catalog.expandBelow (child :: ancestors) child record

/-- The recursion expands the children in order, with itself among their ancestors. -/
theorem expandBelow_eq (catalog : Catalog) (ancestors : List String) (name : String)
    (record : Record) :
    catalog.expandBelow ancestors name record =
      ⟨name, record.filePath, none,
        record.children.filterMap (catalog.expandChild? ancestors)⟩ := by
  rw [expandBelow]
  congr 1
  apply List.filterMap_congr
  intro child _
  rw [expandChild?]
  split
  case h_1 absent => simp [absent]
  case h_2 inner found => by_cases known : child ∈ ancestors <;> simp [found, known]

/-- The whole tree, given that of a node below growing ancestors. -/
def attach (catalog : Catalog) : List Growing → Tree → Tree
  | [], tree => tree
  | parent :: above, tree => attach catalog above
      ⟨parent.name, parent.filePath, none, parent.grown.reverse ++
        tree :: parent.pending.filterMap (catalog.expandChild? parent.ancestors)⟩

/-- The loop goes on as if what is pending were expanded by recursion. -/
theorem grow_eq_attach (catalog : Catalog) (node : Growing) (above : List Growing) :
    catalog.grow node above = catalog.attach above ⟨node.name, node.filePath, none,
      node.grown.reverse ++ node.pending.filterMap (catalog.expandChild? node.ancestors)⟩ := by
  fun_induction grow catalog node above with
  | case1 above name filePath ancestors grown child later absent ih =>
    have dropped : catalog.expandChild? ancestors child = none := by simp [expandChild?, absent]
    rw [ih, List.filterMap_cons_none dropped]
  | case2 above name filePath ancestors grown child later inner found known leaf ih =>
    have marked : catalog.expandChild? ancestors child = some leaf := by
      simp [expandChild?, found, known, leaf]
    rw [ih, List.filterMap_cons_some marked]
    simp
  | case3 above name filePath ancestors grown child later inner found fresh ih =>
    have entered : catalog.expandChild? ancestors child =
        some (catalog.expandBelow (child :: ancestors) child inner) := by
      simp [expandChild?, found, fresh]
    rw [ih, attach, List.filterMap_cons_some entered, expandBelow_eq]
    simp
  | case4 name filePath ancestors grown => simp [attach]
  | case5 name filePath ancestors grown tree parent rest ih =>
    simpa [attach, tree] using ih

/-- The expansion of a key is what a child of that name becomes below no ancestors. -/
theorem expand?_eq_expandChild? (catalog : Catalog) (name : String) :
    catalog.expand? name = catalog.expandChild? [] name := by
  rw [expand?, expandChild?]
  congr 1
  funext record
  rw [grow_eq_attach, attach, expandBelow_eq]
  rfl

/-- A property of expansions holds if it holds of the leaf with the note, and holds of an
expansion when it holds of every child's below one ancestor more.

Induction on the room that the ancestors leave: a child that is expanded was no ancestor and
becomes one. -/
theorem expandChild?_induction {catalog : Catalog}
    {motive : List String → String → Tree → Prop}
    (leaf : ∀ ancestors child record, catalog.get? child = some record → child ∈ ancestors →
      motive ancestors child ⟨child, record.filePath, some cycleNote, []⟩)
    (branch : ∀ ancestors child record, catalog.get? child = some record → child ∉ ancestors →
      (∀ next ∈ record.children, ∀ below,
        catalog.expandChild? (child :: ancestors) next = some below →
          motive (child :: ancestors) next below) →
      motive ancestors child ⟨child, record.filePath, none,
        record.children.filterMap (catalog.expandChild? (child :: ancestors))⟩)
    {ancestors : List String} {child : String} {tree : Tree}
    (grown : catalog.expandChild? ancestors child = some tree) :
    motive ancestors child tree := by
  induction room : catalog.room ancestors using Nat.strong_induction_on
    generalizing ancestors child tree with
  | _ bound ih =>
  obtain ⟨record, found, rfl⟩ := Option.map_eq_some_iff.mp grown
  by_cases known : child ∈ ancestors
  · rw [if_pos known]
    exact leaf ancestors child record found known
  · rw [if_neg known, expandBelow_eq]
    apply branch ancestors child record found known
    intro next _ below inside
    have smaller := room_cons_lt (mem_keys_of_get? found) known
    exact ih _ (room ▸ smaller) inside rfl

/-- What a child becomes has its name. -/
theorem name_expandChild? {catalog : Catalog} {ancestors : List String} {child : String}
    {tree : Tree} (grown : catalog.expandChild? ancestors child = some tree) :
    tree.name = child :=
  expandChild?_induction (motive := fun _ child tree => tree.name = child)
    (fun _ _ _ _ _ => rfl) (fun _ _ _ _ _ _ => rfl) grown

/-- A child becomes a tree exactly if it is a key. -/
theorem exists_expandChild? {catalog : Catalog} {ancestors : List String} {child : String} :
    (∃ tree, catalog.expandChild? ancestors child = some tree) ↔ child ∈ catalog.keys := by
  rw [← isSome_get?, ← Option.isSome_iff_exists, expandChild?, Option.isSome_map]

/-- A child becomes nothing exactly if it is no key. -/
theorem expandChild?_eq_none_iff {catalog : Catalog} {ancestors : List String} {child : String} :
    catalog.expandChild? ancestors child = none ↔ child ∉ catalog.keys := by
  rw [expandChild?, Option.map_eq_none_iff]
  exact Keyed.get?_eq_none_iff

/-! ## Walks -/

/-- A step leads from a key to a key that it lists as a child. -/
def Step (catalog : Catalog) (key child : String) : Prop :=
  catalog.HasChild key child ∧ child ∈ catalog.keys

/-- A walk from a key is a row of keys in which each follows by a step. -/
def IsWalk (catalog : Catalog) (start : String) (names : List String) : Prop :=
  start ∈ catalog.keys ∧ names.head? = some start ∧ names.IsChain catalog.Step

/-- A row of names is new up to its last name: the others differ from each other and from the
ancestors. -/
def Fresh (ancestors names : List String) : Prop :=
  names.dropLast.Nodup ∧ ∀ name ∈ names.dropLast, name ∉ ancestors

/-- A single name is new, since only those before the last have to be. -/
theorem fresh_singleton (ancestors : List String) (last : String) : Fresh ancestors [last] := by
  simp [Fresh]

/-- A longer row has a new name first, and is new below that as an ancestor. -/
theorem fresh_cons_cons {ancestors : List String} {first second : String} {rest : List String} :
    Fresh ancestors (first :: second :: rest) ↔
      first ∉ ancestors ∧ Fresh (first :: ancestors) (second :: rest) := by
  rw [Fresh, Fresh, List.dropLast_cons_cons, List.nodup_cons, List.forall_mem_cons]
  constructor
  · rintro ⟨⟨once, distinct⟩, new, rests⟩
    refine ⟨new, distinct, ?_⟩
    intro name member known
    rcases List.mem_cons.mp known with rfl | older
    · exact once member
    · exact rests name member older
  · rintro ⟨new, distinct, rests⟩
    refine ⟨⟨?_, distinct⟩, new, ?_⟩
    · intro member
      exact rests first member List.mem_cons_self
    · intro name member older
      exact rests name member (List.mem_cons_of_mem first older)

/-- Below no ancestors only the names of the row have to differ. -/
theorem fresh_nil_iff {names : List String} : Fresh [] names ↔ names.dropLast.Nodup := by
  simp [Fresh]

/-- The chains of an expansion are the rows of steps from its name that are new up to the last.

A leaf with the note has one chain, and a row that starts at an ancestor cannot go on. In an
expansion a chain goes on below a child, with the name as one ancestor more, as a row does. -/
theorem mem_chains_expandChild? {catalog : Catalog} {ancestors : List String} {child : String}
    {tree : Tree} (grown : catalog.expandChild? ancestors child = some tree) :
    ∀ names, names ∈ tree.chains ↔
      names.head? = some child ∧ names.IsChain catalog.Step ∧ Fresh ancestors names := by
  refine expandChild?_induction (motive := fun ancestors child tree => ∀ names,
    names ∈ tree.chains ↔
      names.head? = some child ∧ names.IsChain catalog.Step ∧ Fresh ancestors names)
    ?leaf ?branch grown
  case leaf =>
    intro ancestors child record _ known names
    rw [Tree.mem_chains]
    constructor
    · rintro (rfl | ⟨_, none, _⟩)
      · exact ⟨rfl, .singleton child, fresh_singleton ancestors child⟩
      · cases none
    · rintro ⟨start, _, new⟩
      match names with
      | [first] => exact .inl (by rw [Option.some.inj start])
      | first :: second :: rest =>
        obtain rfl := Option.some.inj start
        exact absurd known (fresh_cons_cons.mp new).1
  case branch =>
    intro ancestors child record found unknown ih names
    rw [Tree.mem_chains]
    constructor
    · rintro (rfl | ⟨below, listed, rest, inside, rfl⟩)
      · exact ⟨rfl, .singleton child, fresh_singleton ancestors child⟩
      · obtain ⟨next, lists, grown⟩ := List.mem_filterMap.mp listed
        obtain ⟨start, onward, new⟩ := (ih next lists below grown rest).mp inside
        obtain ⟨later, rfl⟩ := List.head?_eq_some_iff.mp start
        have step : catalog.Step child next :=
          ⟨⟨record, found, lists⟩, exists_expandChild?.mp ⟨below, grown⟩⟩
        exact ⟨rfl, .cons_cons step onward, fresh_cons_cons.mpr ⟨unknown, new⟩⟩
    · rintro ⟨start, walk, new⟩
      match names with
      | [first] => exact .inl (by rw [Option.some.inj start])
      | first :: next :: later =>
        obtain rfl := Option.some.inj start
        obtain ⟨⟨edge, present⟩, onward⟩ := List.isChain_cons_cons.mp walk
        obtain ⟨below, grown⟩ := exists_expandChild?.mpr present
        have lists := (links_iff found).mp edge
        have inside := (ih next lists below grown (next :: later)).mpr
          ⟨rfl, onward, (fresh_cons_cons.mp new).2⟩
        exact .inr ⟨below, List.mem_filterMap.mpr ⟨next, lists, grown⟩, _, inside, rfl⟩

/-- The expanded children are, by name, the children that are keys, in order. -/
theorem map_name_filterMap_expandChild? (catalog : Catalog) (ancestors children : List String) :
    (children.filterMap (catalog.expandChild? ancestors)).map Tree.name =
      children.filter catalog.has := by
  induction children with
  | nil => rfl
  | cons child rest ih =>
    cases grown : catalog.expandChild? ancestors child with
    | none =>
      have absent : ¬ catalog.has child = true := by
        rw [has_iff]
        exact expandChild?_eq_none_iff.mp grown
      rw [List.filterMap_cons_none grown, List.filter_cons_of_neg absent, ih]
    | some tree =>
      have present : catalog.has child = true := has_iff.mpr (exists_expandChild?.mp ⟨tree, grown⟩)
      rw [List.filterMap_cons_some grown, List.filter_cons_of_pos present, List.map_cons, ih,
        name_expandChild? grown]

/-- Where no record repeats a child, no chain of an expansion occurs twice. -/
theorem nodup_chains_expandChild? {catalog : Catalog}
    (distinct : ∀ record ∈ catalog.records, record.children.Nodup) {ancestors : List String}
    {child : String} {tree : Tree} (grown : catalog.expandChild? ancestors child = some tree) :
    tree.chains.Nodup := by
  refine expandChild?_induction (motive := fun _ _ tree => tree.chains.Nodup)
    ?leaf ?branch grown
  case leaf =>
    intro ancestors child record _ _
    exact Tree.nodup_chains List.nodup_nil fun _ none => nomatch none
  case branch =>
    intro ancestors child record found _ ih
    apply Tree.nodup_chains
    · rw [map_name_filterMap_expandChild?]
      exact (distinct record (mem_records_iff.mpr ⟨child, found⟩)).filter _
    · intro below listed
      obtain ⟨next, lists, grown⟩ := List.mem_filterMap.mp listed
      exact ih next lists below grown

/-- A property of the nodes of expansions, told by the ancestors and the nodes above, holds if
it holds of every root and of a node below a root whenever it holds with the root counted as an
ancestor instead. -/
theorem lineage_induction {catalog : Catalog} {motive : List String → List Tree → Tree → Prop}
    (leaf : ∀ ancestors child record, catalog.get? child = some record → child ∈ ancestors →
      motive ancestors [] ⟨child, record.filePath, some cycleNote, []⟩)
    (branch : ∀ ancestors child record children, catalog.get? child = some record →
      child ∉ ancestors → motive ancestors [] ⟨child, record.filePath, none, children⟩)
    (below : ∀ ancestors root higher node,
      motive (root.name :: ancestors) higher node → motive ancestors (root :: higher) node)
    {ancestors : List String} {child : String} {tree : Tree}
    (grown : catalog.expandChild? ancestors child = some tree) :
    ∀ above node, above ++ [node] ∈ tree.lineages → motive ancestors above node := by
  refine expandChild?_induction (motive := fun ancestors _ tree => ∀ above node,
    above ++ [node] ∈ tree.lineages → motive ancestors above node) ?leaf ?branch grown
  case leaf =>
    intro ancestors child record found known above node member
    rcases Tree.append_mem_lineages.mp member with ⟨rfl, rfl⟩ | ⟨_, none, _⟩
    · exact leaf ancestors child record found known
    · cases none
  case branch =>
    intro ancestors child record found unknown ih above node member
    rcases Tree.append_mem_lineages.mp member with
      ⟨rfl, rfl⟩ | ⟨inner, listed, higher, rfl, inside⟩
    · exact branch ancestors child record _ found unknown
    · obtain ⟨next, lists, grown⟩ := List.mem_filterMap.mp listed
      exact below ancestors _ higher node (ih next lists inner grown higher node inside)

/-- A node of an expansion has the note exactly if its name is an ancestor's, and then it has
no children. -/
theorem note_of_mem_lineages {catalog : Catalog} {ancestors : List String} {child : String}
    {tree : Tree} (grown : catalog.expandChild? ancestors child = some tree) :
    ∀ above node, above ++ [node] ∈ tree.lineages →
      node.note = (if node.name ∈ ancestors ++ above.map Tree.name then some cycleNote else none) ∧
        (node.note ≠ none → node.children = []) := by
  refine lineage_induction (motive := fun ancestors above node =>
    node.note = (if node.name ∈ ancestors ++ above.map Tree.name then some cycleNote else none) ∧
      (node.note ≠ none → node.children = [])) ?leaf ?branch ?below grown
  case leaf =>
    intro ancestors child record _ known
    simp [known]
  case branch =>
    intro ancestors child record children _ unknown
    simp [unknown]
  case below =>
    rintro ancestors root higher node ⟨note, leaf⟩
    refine ⟨?_, leaf⟩
    -- The root moves from the ancestors to the nodes above, among other names all the same.
    rw [note]
    congr 1
    simp [or_left_comm]

/-- Every node of an expansion has the path that the catalog gives its name. -/
theorem filePath_of_mem_lineages {catalog : Catalog} {ancestors : List String} {child : String}
    {tree : Tree} (grown : catalog.expandChild? ancestors child = some tree) :
    ∀ above node, above ++ [node] ∈ tree.lineages →
      ∃ record, catalog.get? node.name = some record ∧ node.filePath = record.filePath :=
  lineage_induction (motive := fun _ _ node =>
      ∃ record, catalog.get? node.name = some record ∧ node.filePath = record.filePath)
    (fun _ _ record found _ => ⟨record, found, rfl⟩)
    (fun _ _ record _ found _ => ⟨record, found, rfl⟩)
    (fun _ _ _ _ known => known) grown

/-! ## Whole expansions -/

/-- Every key has an expansion. -/
theorem exists_expand? {catalog : Catalog} {root : String} (present : root ∈ catalog.keys) :
    ∃ tree, catalog.expand? root = some tree := by
  rw [expand?_eq_expandChild?]
  exact exists_expandChild?.mpr present

/-- The chains of the expansion of a key are the walks from it that meet no name twice before
their last step. -/
theorem mem_chains_expand? {catalog : Catalog} {root : String} {tree : Tree}
    (expanded : catalog.expand? root = some tree) {names : List String} :
    names ∈ tree.chains ↔ catalog.IsWalk root names ∧ names.dropLast.Nodup := by
  rw [expand?_eq_expandChild?] at expanded
  have present : root ∈ catalog.keys := exists_expandChild?.mp ⟨tree, expanded⟩
  rw [mem_chains_expandChild? expanded names, fresh_nil_iff, IsWalk]
  simp only [present, true_and, and_assoc]

/-- A walk stays among the keys. -/
theorem IsWalk.subset_keys {catalog : Catalog} {start : String} {names : List String}
    (walk : catalog.IsWalk start names) : names ⊆ catalog.keys := by
  obtain ⟨present, first, steps⟩ := walk
  obtain ⟨rest, rfl⟩ := List.head?_eq_some_iff.mp first
  clear first
  induction rest generalizing start with
  | nil => simpa using present
  | cons next more ih =>
    obtain ⟨⟨_, known⟩, onward⟩ := List.isChain_cons_cons.mp steps
    exact List.cons_subset.mpr ⟨present, ih known onward⟩

/-- A walk that meets no name twice before its last step takes at most as many steps as there
are keys. -/
theorem IsWalk.length_dropLast_le {catalog : Catalog} {start : String} {names : List String}
    (walk : catalog.IsWalk start names) (distinct : names.dropLast.Nodup) :
    names.dropLast.length ≤ catalog.keys.length :=
  List.Nodup.length_le_of_subset distinct fun _ member =>
    walk.subset_keys (names.dropLast_subset member)

/-- The expansion of a key has a node for each walk that meets no name twice before its last
step, and for no other row of names; it is the only one where no record repeats a child. A
node has the cycle note if its name is among those above it, and no note otherwise; under a
note nothing is expanded. So no node stands deeper than there are keys.

The chains are those of `mem_chains_expand?`. The nodes above a node are a walk of distinct
names, which bounds their number. -/
theorem expansion_walks (catalog : Catalog) {root : String} (present : root ∈ catalog.keys) :
    ∃ tree, catalog.expand? root = some tree ∧
      (∀ names, (∃ lineage ∈ tree.lineages, lineage.map Tree.name = names) ↔
        catalog.IsWalk root names ∧ names.dropLast.Nodup) ∧
      ((∀ record ∈ catalog.records, record.children.Nodup) →
        ∀ names, catalog.IsWalk root names → names.dropLast.Nodup →
          (tree.lineages.map (·.map Tree.name)).count names = 1) ∧
      ∀ above node, above ++ [node] ∈ tree.lineages →
        node.note = (if node.name ∈ above.map Tree.name then some cycleNote else none) ∧
        (node.note ≠ none → node.children = []) ∧
        above.length ≤ catalog.keys.length := by
  obtain ⟨tree, expanded⟩ := exists_expand? present
  have grown : catalog.expandChild? [] root = some tree := by
    rw [← expand?_eq_expandChild?, expanded]
  refine ⟨tree, expanded, ?_, ?_, ?_⟩
  · intro names
    rw [← mem_chains_expand? expanded, Tree.chains, List.mem_map]
  · intro distinct names walk once
    apply List.count_eq_one_of_mem (nodup_chains_expandChild? distinct grown)
    exact (mem_chains_expand? expanded).mpr ⟨walk, once⟩
  · intro above node member
    obtain ⟨note, leaf⟩ := note_of_mem_lineages grown above node member
    have chain : (above ++ [node]).map Tree.name ∈ tree.chains := List.mem_map_of_mem member
    obtain ⟨walk, once⟩ := (mem_chains_expand? expanded).mp chain
    refine ⟨by simpa using note, leaf, ?_⟩
    simpa using walk.length_dropLast_le once

/-- A catalog with a shared component, a cycle, a component that renders itself and a child
that is no key. -/
def entangled : Catalog := ofPairs [
  ("App", ⟨"App", "app", ["Card", "Menu", "Ghost"], ["Card"]⟩),
  ("Card", ⟨"Card", "card", ["Icon", "App"], ["App"]⟩),
  ("Menu", ⟨"Menu", "menu", ["Icon", "Menu"], ["App", "Menu"]⟩),
  ("Icon", ⟨"Icon", "icon", [], ["Card", "Menu"]⟩)]

/-- Both ways to the shared component and the way back to the root have one node each, and no
node is deeper than the four keys. -/
theorem expansion_walks_entangled :
    "App" ∈ entangled.keys ∧ ∃ tree, entangled.expand? "App" = some tree ∧
      (tree.lineages.map (·.map Tree.name)).count ["App", "Card", "Icon"] = 1 ∧
      (tree.lineages.map (·.map Tree.name)).count ["App", "Menu", "Icon"] = 1 ∧
      (tree.lineages.map (·.map Tree.name)).count ["App", "Card", "App"] = 1 ∧
      ∀ above node, above ++ [node] ∈ tree.lineages → above.length ≤ 4 := by
  have present : "App" ∈ entangled.keys := by decide
  obtain ⟨tree, expanded, _, once, nodes⟩ := expansion_walks entangled present
  have unrepeated : ∀ record ∈ entangled.records, record.children.Nodup := by decide
  have card : entangled.Step "App" "Card" := ⟨⟨_, rfl, by decide⟩, by decide⟩
  have menu : entangled.Step "App" "Menu" := ⟨⟨_, rfl, by decide⟩, by decide⟩
  have shared : entangled.Step "Card" "Icon" := ⟨⟨_, rfl, by decide⟩, by decide⟩
  have again : entangled.Step "Menu" "Icon" := ⟨⟨_, rfl, by decide⟩, by decide⟩
  have back : entangled.Step "Card" "App" := ⟨⟨_, rfl, by decide⟩, by decide⟩
  refine ⟨present, tree, expanded, ?_, ?_, ?_,
    fun above node member => (nodes above node member).2.2⟩
  · exact once unrepeated _ ⟨present, rfl, .cons_cons card (.cons_cons shared (.singleton _))⟩
      (by decide)
  · exact once unrepeated _ ⟨present, rfl, .cons_cons menu (.cons_cons again (.singleton _))⟩
      (by decide)
  · exact once unrepeated _ ⟨present, rfl, .cons_cons card (.cons_cons back (.singleton _))⟩
      (by decide)

end Catalog

end ComponentAtlas.Component
