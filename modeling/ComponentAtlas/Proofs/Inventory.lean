import ComponentAtlas.Proofs.Selection
import ComponentAtlas.Proofs.Walks
import ComponentAtlas.Scan.Report

/-!
# Inventories of merged findings

An inventory shows its components three times: as records with edges on both sides, as roots,
and as trees. The views fit together: edges lead to listed records and can be read from either
side, the roots are the records without parents, and the trees are grown from the roots with
the paths of the records.

The fit is brought about by four stages, each of which keeps what the next one needs. Merging
names each record after its key, the pass justifies parents by children and makes the sides
mirror each other, and the selection cuts both sides alike.
-/

namespace ComponentAtlas.Component

namespace Catalog

/-! ## Roots -/

/-- The roots are the keys that no key lists as a child. -/
theorem mem_roots {catalog : Catalog} {key : String} :
    key ∈ catalog.roots ↔ key ∈ catalog.keys ∧ ∀ parent, ¬ catalog.HasChild parent key := by
  simp only [roots, List.mem_filter, Bool.not_eq_true', List.contains_eq_mem,
    decide_eq_false_iff_not, List.mem_flatMap, mem_records_iff, Links]
  apply and_congr_right
  intro _
  constructor
  · rintro unused parent ⟨record, found, lists⟩
    exact unused ⟨record, ⟨parent, found⟩, lists⟩
  · rintro unlisted ⟨record, ⟨parent, found⟩, lists⟩
    exact unlisted parent ⟨record, found, lists⟩

/-- The trees are grown from the roots, one from each, in order. -/
theorem map_name_trees (catalog : Catalog) : catalog.trees.map Tree.name = catalog.roots := by
  have same : catalog.expand? = catalog.expandChild? [] :=
    funext (expand?_eq_expandChild? catalog)
  rw [trees, same, map_name_filterMap_expandChild?, List.filter_eq_self]
  intro key root
  exact has_iff.mpr (mem_roots.mp root).1

/-- Every node of a tree has the path that the catalog gives its name. -/
theorem filePath_of_mem_trees {catalog : Catalog} {tree : Tree} (member : tree ∈ catalog.trees)
    {above : List Tree} {node : Tree} (inside : above ++ [node] ∈ tree.lineages) :
    ∃ record, catalog.get? node.name = some record ∧ node.filePath = record.filePath := by
  obtain ⟨root, _, expanded⟩ := List.mem_filterMap.mp member
  rw [expand?_eq_expandChild?] at expanded
  exact filePath_of_mem_lineages expanded above node inside

/-- Where edges lead to keys and can be read from either side, the roots are the names of the
records without parents, in order. -/
theorem Mirrored.roots_eq {catalog : Catalog} (mirrored : catalog.Mirrored)
    (named : catalog.Named)
    (closed : ∀ key parent, catalog.HasParent key parent → parent ∈ catalog.keys) :
    catalog.roots = (catalog.records.filter (·.parents.isEmpty)).map (·.name) := by
  rw [roots, ← named.map_name_records, List.filter_map]
  congr 1
  apply List.filter_congr
  intro record listed
  have found := named.get?_name listed
  have present := mem_keys_of_get? found
  have orphan : record.parents = [] ↔ record.name ∈ catalog.roots := by
    rw [List.eq_nil_iff_forall_not_mem, mem_roots]
    constructor
    · intro none
      refine ⟨present, fun parent edge => ?_⟩
      have back := (mirrored parent edge.present record.name present).mp edge
      exact none parent ((links_iff found).mp back)
    · rintro ⟨_, unlisted⟩ parent member
      have back : catalog.HasParent record.name parent := (links_iff found).mpr member
      have above := closed record.name parent back
      exact unlisted parent ((mirrored parent above record.name present).mpr back)
  rw [Bool.eq_iff_iff, List.isEmpty_iff, orphan, roots, List.mem_filter]
  simp [present]

end Catalog

namespace Inventory

/-- The views of an inventory fit together. -/
structure Consistent (inventory : Inventory) : Prop where
  /-- Records are told apart by their names. -/
  distinct : (inventory.components.map (·.name)).Nodup
  /-- Children and parents are listed records. -/
  closed : ∀ record ∈ inventory.components, ∀ name ∈ record.children ++ record.parents,
    ∃ listed ∈ inventory.components, listed.name = name
  /-- No record repeats a neighbour. -/
  unrepeated : ∀ record ∈ inventory.components, record.children.Nodup ∧ record.parents.Nodup
  /-- An edge is told on both of its sides. -/
  mirrored : ∀ parent ∈ inventory.components, ∀ child ∈ inventory.components,
    child.name ∈ parent.children ↔ parent.name ∈ child.parents
  /-- The roots are the records without parents. -/
  rooted : inventory.roots =
    (inventory.components.filter (·.parents.isEmpty)).map (·.name)
  /-- Each root has one tree. -/
  grown : inventory.trees.map Tree.name = inventory.roots
  /-- Each node has the path of the record of its name. -/
  located : ∀ tree ∈ inventory.trees, ∀ above node, above ++ [node] ∈ tree.lineages →
    ∃ listed ∈ inventory.components, listed.name = node.name ∧ listed.filePath = node.filePath

/-- The inventory of a selection is consistent, if in the catalog records stand under their
names, repeat nothing, and edges between keys can be read from either side. -/
theorem consistent_inventoryOf {catalog : Catalog} (named : catalog.Named)
    (unrepeated : catalog.Unrepeated) (mirrored : catalog.Mirrored) (includePath : String)
    (now : Time.Instant) : (Scan.inventoryOf catalog includePath now).Consistent where
  distinct := by
    show ((catalog.select includePath).records.map (·.name)).Nodup
    rw [named.select.map_name_records]
    exact (catalog.select includePath).distinct
  closed := by
    intro record listed name neighbour
    have selected := Catalog.neighbours_selected listed (List.mem_append.mp neighbour)
    obtain ⟨other, found⟩ := Catalog.exists_get? selected
    exact ⟨other, Catalog.mem_records_iff.mpr ⟨name, found⟩, named.select name other found⟩
  unrepeated := by
    intro record listed
    obtain ⟨key, found⟩ := Catalog.mem_records_iff.mp listed
    exact unrepeated.select key record found
  mirrored := by
    intro parent above child below
    have upper := named.select.get?_name above
    have lower := named.select.get?_name below
    have edge := mirrored.select parent.name (Catalog.mem_keys_of_get? upper) child.name
      (Catalog.mem_keys_of_get? lower)
    exact (Catalog.links_iff upper).symm.trans (edge.trans (Catalog.links_iff lower))
  rooted := mirrored.select.roots_eq named.select
    fun _ _ edge => (Catalog.hasParent_select.mp edge).2.2
  grown := Catalog.map_name_trees (catalog.select includePath)
  located := by
    intro tree member above node inside
    obtain ⟨record, found, path⟩ := Catalog.filePath_of_mem_trees member inside
    exact ⟨record, Catalog.mem_records_iff.mpr ⟨node.name, found⟩,
      named.select node.name record found, path.symm⟩

/-- Derived parents make inventories consistent, if every earlier parent was justified. -/
theorem consistent_deriveParents {catalog : Catalog} (named : catalog.Named)
    (unrepeated : catalog.Unrepeated) (justified : catalog.Justified) (includePath : String)
    (now : Time.Instant) :
    (Scan.inventoryOf catalog.deriveParents includePath now).Consistent :=
  consistent_inventoryOf named.deriveParents unrepeated.deriveParents
    (justified.mirrored_deriveParents named) includePath now

/-- The catalog of merged findings with derived parents has what a consistent inventory needs,
whatever the files define and render. -/
theorem merged_consistent (all : List Findings) (includePath : String)
    (now : Time.Instant) :
    (Scan.inventoryOf (Catalog.ofFindings all).deriveParents includePath now).Consistent := by
  have named := Catalog.named_ofFindings all
  have unrepeated := Catalog.unrepeated_ofFindings all
  have justified := Catalog.justified_ofFindings all
  exact consistent_deriveParents named unrepeated justified includePath now

end Inventory

/-! ## Reports -/

/-- A scan merges the findings of its analyses. -/
theorem mergeAll_eq_ofFindings (analyses : List Scan.Analysis) :
    Scan.mergeAll analyses = Catalog.ofFindings (analyses.map (·.findings)) := by
  rw [Scan.mergeAll, Catalog.ofFindings, List.foldl_map]

/-- A report has the inventory of what the analyses of its files found. -/
theorem inventory_report (parser : Scan.Parser) (disk : Disk) (env : Path.Environment)
    (now : Time.Instant) (config : Config) (files : List Scan.SourceFile) :
    (Scan.report parser disk env now config files).1.inventory =
      Scan.inventoryOf (Catalog.ofFindings (files.map fun file =>
        (Scan.analyzeFile parser disk config.conventions file).1.findings)).deriveParents
        config.includePath now := by
  have merged := mergeAll_eq_ofFindings
    ((files.map (Scan.analyzeFile parser disk config.conventions)).map (·.1))
  simp only [List.map_map, Function.comp_def] at merged
  simp only [Scan.report, List.map_map, Function.comp_def, merged]

/-- Every report of a scan has a consistent inventory, whatever the disk holds and however
scripts are parsed. -/
theorem consistent_report (parser : Scan.Parser) (disk : Disk) (env : Path.Environment)
    (now : Time.Instant) (config : Config) (files : List Scan.SourceFile) :
    (Scan.report parser disk env now config files).1.inventory.Consistent := by
  rw [inventory_report]
  exact Inventory.consistent_deriveParents (Catalog.named_ofFindings _)
    (Catalog.unrepeated_ofFindings _) (Catalog.justified_ofFindings _) config.includePath now

end ComponentAtlas.Component
