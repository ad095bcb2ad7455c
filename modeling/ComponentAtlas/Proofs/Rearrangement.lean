import ComponentAtlas.Proofs.Inventory

/-!
# The order of files

Files are merged one after another, so their order could show in the inventory. Where no name
is defined by two successful files, it shows in the order of lists only: the components come
in another order, and so do roots and the parents of a component. Which components there are,
where they are defined, what they render and which trees grow from the roots is the same.

Two catalogs that differ in this way are rearrangements of each other. Merged in another order
the files give the same record for each name, and from there on every stage takes
rearrangements to rearrangements. An expansion reads records by their names and children in
their order, so it is not affected at all.
-/

namespace ComponentAtlas.Component

/-! ## Files that define different names -/

/-- Two files define no name both, if both count. -/
def Findings.Apart (first second : Findings) : Prop :=
  first.ok = true → second.ok = true →
    ∀ usage ∈ first.usages, ∀ other ∈ second.usages, usage.name ≠ other.name

/-- The names of both files are compared one by one. -/
instance (first second : Findings) : Decidable (first.Apart second) :=
  inferInstanceAs (Decidable (first.ok = true → second.ok = true →
    ∀ usage ∈ first.usages, ∀ other ∈ second.usages, usage.name ≠ other.name))

/-- No name is defined by two successful files. -/
def Separate (all : List Findings) : Prop := all.Pairwise Findings.Apart

/-- Any two files are compared. -/
instance (all : List Findings) : Decidable (Separate all) :=
  inferInstanceAs (Decidable (all.Pairwise Findings.Apart))

/-- Being apart does not depend on which file is named first. -/
theorem Findings.Apart.symm {first second : Findings} (apart : first.Apart second) :
    second.Apart first :=
  fun secondOk firstOk usage here other there names =>
    apart firstOk secondOk other there usage here names.symm

/-- Of two successful files that are apart, one does not define what the other defines. -/
theorem Findings.Apart.defines_eq_false {first second : Findings} (apart : first.Apart second)
    (firstOk : first.ok = true) (secondOk : second.ok = true) {name : String}
    (defines : first.defines name = true) : second.defines name = false := by
  obtain ⟨usage, here, named⟩ := List.any_eq_true.mp defines
  rw [Findings.defines, List.any_eq_false]
  intro other there again
  exact apart firstOk secondOk usage here other there
    ((eq_of_beq named).trans (eq_of_beq again).symm)

/-- Files that define different names do so in any order. -/
theorem Separate.perm {first second : List Findings} (separate : Separate first)
    (perm : first.Perm second) : Separate second :=
  List.Perm.pairwise perm separate Findings.Apart.symm

/-- Where files define different names, the last file that defines a name is the only one. -/
theorem Separate.lastDefining?_eq_some {all : List Findings} (separate : Separate all)
    {name : String} {file : Findings} :
    lastDefining? all name = some file ↔
      file ∈ all ∧ file.ok = true ∧ file.defines name = true := by
  constructor
  · intro found
    obtain ⟨counted, before, after, rfl, _⟩ := lastDefining?_eq_some_iff.mp found
    exact ⟨by simp, counted⟩
  · rintro ⟨member, ok, defines⟩
    obtain ⟨before, after, rfl⟩ := List.append_of_mem member
    refine lastDefining?_eq_some_iff.mpr ⟨⟨ok, defines⟩, before, after, rfl, ?_⟩
    intro later listed laterOk
    have apart := (List.pairwise_cons.mp (List.pairwise_append.mp separate).2.1).1
    exact (apart later listed).defines_eq_false ok laterOk defines

/-- The definitions of a name in files that do not define it are none. -/
theorem childrenOf_countedUsages_eq_nil {all : List Findings} {name : String}
    (undefined : ∀ file ∈ all, file.ok = true → file.defines name = false) :
    childrenOf (countedUsages all) name = [] := by
  apply childrenOf_eq_nil
  intro usage counted same
  obtain ⟨file, kept, used⟩ := List.mem_flatMap.mp counted
  obtain ⟨member, ok⟩ := List.mem_filter.mp kept
  have none := undefined file member ok
  rw [Findings.defines, List.any_eq_false] at none
  exact none usage used (by simpa using same)

/-- Where files define different names, what a name renders is told by the file that defines
it. -/
theorem Separate.childrenOf_countedUsages {all : List Findings} (separate : Separate all)
    {name : String} {file : Findings} (member : file ∈ all) (ok : file.ok = true)
    (defines : file.defines name = true) :
    childrenOf (countedUsages all) name = childrenOf file.usages name := by
  obtain ⟨before, after, rfl⟩ := List.append_of_mem member
  obtain ⟨_, rest, across⟩ := List.pairwise_append.mp separate
  have earlier : childrenOf (countedUsages before) name = [] := by
    apply childrenOf_countedUsages_eq_nil
    intro other listed otherOk
    have apart := across other listed file List.mem_cons_self
    exact apart.symm.defines_eq_false ok otherOk defines
  have later : childrenOf (countedUsages after) name = [] := by
    apply childrenOf_countedUsages_eq_nil
    intro other listed otherOk
    have apart := (List.pairwise_cons.mp rest).1 other listed
    exact apart.defines_eq_false ok otherOk defines
  have split : countedUsages (before ++ file :: after) =
      countedUsages before ++ (file.usages ++ countedUsages after) := by
    simp [countedUsages, ok]
  rw [split, childrenOf_append, childrenOf_append, earlier, later]
  simp

/-- Files that define different names give each name the same record in any order. -/
theorem Separate.get?_ofFindings_perm {first second : List Findings} (separate : Separate first)
    (perm : first.Perm second) (name : String) :
    (Catalog.ofFindings first).get? name = (Catalog.ofFindings second).get? name := by
  cases component : isName name with
  | false => simp only [Catalog.get?_ofFindings_of_not_isName _ component]
  | true =>
    have again : Separate second := separate.perm perm
    have same : lastDefining? first name = lastDefining? second name := by
      apply Option.ext
      intro file
      rw [separate.lastDefining?_eq_some, again.lastDefining?_eq_some, perm.mem_iff]
    rw [Catalog.get?_ofFindings first component, Catalog.get?_ofFindings second component, ← same]
    apply Option.map_congr
    intro file found
    obtain ⟨member, ok, defines⟩ := separate.lastDefining?_eq_some.mp found
    rw [separate.childrenOf_countedUsages member ok defines,
      again.childrenOf_countedUsages (perm.mem_iff.mp member) ok defines]

/-! ## Rearranged catalogs -/

/-- The same component with the same children. Its parents may come in another order. -/
structure Record.Rearranged (left right : Record) : Prop where
  name : left.name = right.name
  filePath : left.filePath = right.filePath
  children : left.children = right.children
  parents : left.parents.Perm right.parents

/-- A record that stays as it is has been rearranged. -/
theorem Record.Rearranged.refl (record : Record) : record.Rearranged record :=
  ⟨rfl, rfl, rfl, .refl _⟩

/-- What was rearranged can be arranged as it was. -/
theorem Record.Rearranged.symm {left right : Record} (same : left.Rearranged right) :
    right.Rearranged left :=
  ⟨same.name.symm, same.filePath.symm, same.children.symm, same.parents.symm⟩

namespace Catalog

/-- The same keys with the same components. Keys and parents may come in another order. -/
structure Rearranged (left right : Catalog) : Prop where
  keys : left.keys.Perm right.keys
  records : ∀ key record other, left.get? key = some record → right.get? key = some other →
    record.Rearranged other

namespace Rearranged

variable {left right : Catalog}

/-- Catalogs in which look-ups find the same are rearranged. -/
theorem of_get? (same : ∀ key, left.get? key = right.get? key) : left.Rearranged right where
  keys := by
    apply (List.perm_ext_iff_of_nodup left.distinct right.distinct).mpr
    intro key
    exact (isSome_get? left key).symm.trans (same key ▸ isSome_get? right key)
  records := by
    intro key record other found again
    obtain rfl : record = other := Option.some.inj (found.symm.trans ((same key).trans again))
    exact .refl record

/-- The same holds of catalogs. -/
theorem symm (same : left.Rearranged right) : right.Rearranged left where
  keys := same.keys.symm
  records key record other found again := (same.records key other record again found).symm

/-- What one catalog finds the other one finds, rearranged. -/
theorem exists_get? (same : left.Rearranged right) {key : String} {record : Record}
    (found : left.get? key = some record) :
    ∃ other, right.get? key = some other ∧ record.Rearranged other := by
  have present : key ∈ right.keys := same.keys.mem_iff.mp (mem_keys_of_get? found)
  obtain ⟨other, again⟩ := Catalog.exists_get? present
  exact ⟨other, again, same.records key record other found again⟩

/-- A child edge of the one is an edge of the other. -/
theorem hasChild (same : left.Rearranged right) {key child : String}
    (edge : left.HasChild key child) : right.HasChild key child := by
  obtain ⟨record, found, lists⟩ := edge
  obtain ⟨other, again, records⟩ := same.exists_get? found
  exact ⟨other, again, records.children ▸ lists⟩

/-- Rearranged catalogs have the same child edges. -/
theorem hasChild_iff (same : left.Rearranged right) {key child : String} :
    left.HasChild key child ↔ right.HasChild key child := ⟨same.hasChild, same.symm.hasChild⟩

/-! ## Stages -/

/-- The pass takes rearranged catalogs to rearranged catalogs.

The parents that it adds to a record are told by the child edges, and no parent is repeated. -/
theorem deriveParents (same : left.Rearranged right) (leftNamed : left.Named)
    (rightNamed : right.Named) (leftUnrepeated : left.Unrepeated)
    (rightUnrepeated : right.Unrepeated) :
    left.deriveParents.Rearranged right.deriveParents where
  keys := by
    rw [keys_deriveParents, keys_deriveParents]
    exact same.keys
  records := by
    intro key derived other found again
    have here := (leftUnrepeated.deriveParents key derived found).2
    have there := (rightUnrepeated.deriveParents key other again).2
    rw [get?_deriveParents, Option.map_eq_some_iff] at found again
    obtain ⟨record, before, rfl⟩ := found
    obtain ⟨counterpart, opposite, rfl⟩ := again
    have records := same.records key record counterpart before opposite
    refine ⟨records.name, records.filePath, records.children, ?_⟩
    apply (List.perm_ext_iff_of_nodup here there).mpr
    intro parent
    rw [mem_insertAll, mem_insertAll, mem_parentsOf leftNamed, mem_parentsOf rightNamed,
      records.parents.mem_iff, same.hasChild_iff]

/-- A component that the one selects is selected by the other, as its file has the same path. -/
theorem mem_keys_select (same : left.Rearranged right) {includePath key : String}
    (selected : key ∈ (left.select includePath).keys) :
    key ∈ (right.select includePath).keys := by
  obtain ⟨record, found, under⟩ := Catalog.mem_keys_select.mp selected
  obtain ⟨other, again, records⟩ := same.exists_get? found
  refine Catalog.mem_keys_select.mpr ⟨other, again, ?_⟩
  rw [Record.liesUnder, ← records.filePath]
  exact under

/-- A fragment of a path selects rearranged catalogs from rearranged catalogs, since it selects
by the paths of files. -/
theorem select (same : left.Rearranged right) (includePath : String) :
    (left.select includePath).Rearranged (right.select includePath) := by
  have keys : (left.select includePath).keys.Perm (right.select includePath).keys := by
    apply (List.perm_ext_iff_of_nodup (Catalog.distinct _) (Catalog.distinct _)).mpr
    intro key
    exact ⟨same.mem_keys_select, same.symm.mem_keys_select⟩
  have kept : (left.select includePath).has = (right.select includePath).has := by
    funext key
    rw [Bool.eq_iff_iff, has_iff, has_iff, keys.mem_iff]
  refine ⟨keys, ?_⟩
  intro key record other found again
  obtain ⟨whole, held, _, rfl⟩ := get?_select_eq_some found
  obtain ⟨counterpart, opposite, _, rfl⟩ := get?_select_eq_some again
  have records := same.records key whole counterpart held opposite
  refine ⟨records.name, records.filePath, ?_, ?_⟩
  · show whole.children.filter _ = counterpart.children.filter _
    rw [records.children, kept]
  · show (whole.parents.filter _).Perm (counterpart.parents.filter _)
    rw [kept]
    exact records.parents.filter _

/-- Rearranged catalogs have their roots in another order. -/
theorem roots (same : left.Rearranged right) : left.roots.Perm right.roots := by
  have here : left.roots.Nodup := left.distinct.filter _
  have there : right.roots.Nodup := right.distinct.filter _
  apply (List.perm_ext_iff_of_nodup here there).mpr
  intro key
  rw [mem_roots, mem_roots, same.keys.mem_iff]
  simp only [same.hasChild_iff]

/-- What a child becomes in a catalog it becomes in a rearranged one.

The file and the children of each record are the same, and what is expanded below an ancestor
more is the same by induction. A child that is no key is dropped from both. -/
theorem expandChild?_eq_some (same : left.Rearranged right) {ancestors : List String}
    {child : String} {tree : Tree} (grown : left.expandChild? ancestors child = some tree) :
    right.expandChild? ancestors child = some tree := by
  refine expandChild?_induction
    (motive := fun ancestors child tree => right.expandChild? ancestors child = some tree)
    ?leaf ?branch grown
  case leaf =>
    intro ancestors child record found known
    obtain ⟨other, again, records⟩ := same.exists_get? found
    rw [expandChild?, again, Option.map_some, if_pos known, records.filePath]
  case branch =>
    intro ancestors child record found unknown ih
    obtain ⟨other, again, records⟩ := same.exists_get? found
    have below : record.children.filterMap (right.expandChild? (child :: ancestors)) =
        record.children.filterMap (left.expandChild? (child :: ancestors)) := by
      apply List.filterMap_congr
      intro next lists
      cases inside : left.expandChild? (child :: ancestors) next with
      | some tree => exact ih next lists tree inside
      | none =>
        rw [expandChild?_eq_none_iff, same.keys.mem_iff] at inside
        exact expandChild?_eq_none_iff.mpr inside
    rw [expandChild?, again, Option.map_some, if_neg unknown, expandBelow_eq, ← records.children,
      below, records.filePath]

/-- Every component has the same expansion in rearranged catalogs. -/
theorem expand?_eq (same : left.Rearranged right) : left.expand? = right.expand? := by
  funext key
  rw [expand?_eq_expandChild?, expand?_eq_expandChild?]
  apply Option.ext
  intro tree
  exact ⟨same.expandChild?_eq_some, same.symm.expandChild?_eq_some⟩

/-- Rearranged catalogs have their trees in another order. -/
theorem trees (same : left.Rearranged right) : left.trees.Perm right.trees := by
  rw [Catalog.trees, Catalog.trees, same.expand?_eq]
  exact same.roots.filterMap _

end Rearranged

/-- A tree is the expansion of its name. -/
theorem expand?_name_of_mem_trees {catalog : Catalog} {tree : Tree}
    (member : tree ∈ catalog.trees) : catalog.expand? tree.name = some tree := by
  obtain ⟨root, _, expanded⟩ := List.mem_filterMap.mp member
  have grown : catalog.expandChild? [] root = some tree := by
    rw [← expand?_eq_expandChild?, expanded]
  rw [name_expandChild? grown, expanded]

end Catalog

/-! ## Inventories -/

/-- The same components, roots and trees. Components, roots, trees and the parents of a
component may come in another order. -/
structure Inventory.Rearranged (left right : Inventory) : Prop where
  /-- The same names are listed. -/
  names : (left.components.map (·.name)).Perm (right.components.map (·.name))
  /-- Under a name both list the same component. -/
  components : ∀ record ∈ left.components, ∀ other ∈ right.components,
    record.name = other.name → record.Rearranged other
  /-- The same names are roots. -/
  roots : left.roots.Perm right.roots
  /-- The same trees grow from them. -/
  trees : left.trees.Perm right.trees
  /-- A root has the same tree in both. -/
  grown : ∀ tree ∈ left.trees, ∀ other ∈ right.trees, tree.name = other.name → tree = other

/-- Rearranged catalogs have rearranged inventories, whenever these are made. -/
theorem Catalog.Rearranged.inventoryOf {left right : Catalog} (same : left.Rearranged right)
    (leftNamed : left.Named) (rightNamed : right.Named) (includePath : String)
    (now later : Time.Instant) :
    (Scan.inventoryOf left includePath now).Rearranged
      (Scan.inventoryOf right includePath later) where
  names := by
    show ((left.select includePath).records.map (·.name)).Perm
      ((right.select includePath).records.map (·.name))
    rw [leftNamed.select.map_name_records, rightNamed.select.map_name_records]
    exact (same.select includePath).keys
  components := by
    intro record listed other again names
    have here := leftNamed.select.get?_name listed
    have there := rightNamed.select.get?_name again
    rw [← names] at there
    exact (same.select includePath).records record.name record other here there
  roots := (same.select includePath).roots
  trees := (same.select includePath).trees
  grown := by
    intro tree member other again names
    have here := Catalog.expand?_name_of_mem_trees member
    have there := Catalog.expand?_name_of_mem_trees again
    rw [(same.select includePath).expand?_eq, names, there] at here
    exact (Option.some.inj here).symm

/-- Merged in any two orders, files that define different names give rearranged catalogs, with
parents derived as well. -/
theorem Separate.rearranged_deriveParents {first second : List Findings}
    (separate : Separate first) (perm : first.Perm second) :
    (Catalog.ofFindings first).deriveParents.Rearranged
      (Catalog.ofFindings second).deriveParents := by
  have merged : (Catalog.ofFindings first).Rearranged (Catalog.ofFindings second) :=
    .of_get? (separate.get?_ofFindings_perm perm)
  exact merged.deriveParents (Catalog.named_ofFindings first) (Catalog.named_ofFindings second)
    (Catalog.unrepeated_ofFindings first) (Catalog.unrepeated_ofFindings second)

/-- In any two orders, files that define different names have the same inventory up to the
order of lists. The components have the same files and the same children in the same order,
and each root has the same tree.

A name has one file that defines it and is found with the same record; the stages after
merging take rearranged catalogs to rearranged catalogs. -/
theorem inventory_rearranged {first second : List Findings} (perm : first.Perm second)
    (separate : Separate first) (includePath : String) (now later : Time.Instant) :
    (Scan.inventoryOf (Catalog.ofFindings first).deriveParents includePath now).Rearranged
      (Scan.inventoryOf (Catalog.ofFindings second).deriveParents includePath later) := by
  have derived := separate.rearranged_deriveParents perm
  have leftNamed := (Catalog.named_ofFindings first).deriveParents
  have rightNamed := (Catalog.named_ofFindings second).deriveParents
  exact derived.inventoryOf leftNamed rightNamed includePath now later

/-- Three files whose components render each other, and one that failed. -/
def severalFiles : List Findings := [
  ⟨"ui/app.js", true, [⟨"App", ["Card", "Icon", "Ghost"]⟩]⟩,
  ⟨"ui/broken.js", false, [⟨"App", ["Icon"]⟩]⟩,
  ⟨"ui/card.js", true, [⟨"Card", ["Icon"]⟩, ⟨"Menu", ["Card"]⟩, ⟨"Card", ["Menu", "Icon"]⟩]⟩,
  ⟨"ui/icon.js", true, [⟨"Icon", ["Icon"]⟩]⟩]

/-- The failed file may define a name again. Components and parents do come in another order. -/
theorem inventory_rearranged_reverse :
    severalFiles.Perm severalFiles.reverse ∧ Separate severalFiles ∧
      (Catalog.ofFindings severalFiles).keys = ["App", "Card", "Menu", "Icon"] ∧
      (Catalog.ofFindings severalFiles.reverse).keys = ["Icon", "Card", "Menu", "App"] ∧
      (Scan.inventoryOf (Catalog.ofFindings severalFiles).deriveParents "ui" ⟨0⟩).Rearranged
        (Scan.inventoryOf (Catalog.ofFindings severalFiles.reverse).deriveParents "ui" ⟨1⟩) := by
  have perm : severalFiles.Perm severalFiles.reverse := (List.reverse_perm _).symm
  have separate : Separate severalFiles := by decide
  refine ⟨perm, separate, by decide, by decide, ?_⟩
  exact inventory_rearranged perm separate "ui" ⟨0⟩ ⟨1⟩

/-- The order in which files are collected shows in a report in the order of lists only, where
the files define different names. -/
theorem rearranged_report (parser : Scan.Parser) (disk : Disk) (env : Path.Environment)
    (now later : Time.Instant) (config : Config) {files others : List Scan.SourceFile}
    (perm : files.Perm others) (separate : Separate (files.map fun file =>
      (Scan.analyzeFile parser disk config.conventions file).1.findings)) :
    (Scan.report parser disk env now config files).1.inventory.Rearranged
      (Scan.report parser disk env later config others).1.inventory := by
  rw [inventory_report, inventory_report]
  have derived := separate.rearranged_deriveParents (perm.map _)
  exact derived.inventoryOf (Catalog.named_ofFindings _).deriveParents
    (Catalog.named_ofFindings _).deriveParents config.includePath now later

end ComponentAtlas.Component
