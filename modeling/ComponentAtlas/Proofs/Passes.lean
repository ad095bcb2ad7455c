import ComponentAtlas.Proofs.Growth
import ComponentAtlas.Proofs.Rearrangement

/-!
# Passes between merges

Parents are derived once, when all files are merged. If they are derived in between as well, some
parents are entered early and keep their places, so the order of parents can be another one. All
else is the same, since merging does not look at parents and a pass changes nothing but parents:
without its parents a catalog is what its merges alone make of it.

The last pass then adds to the parents of a record those that it lacks, among the same names. What
it had was justified by child edges, so in the end it has the same parents, each once.
-/

namespace ComponentAtlas.Component

/-- Inserting names that are there changes nothing. -/
theorem insertAll_of_subset {names more : List String} (held : ∀ name ∈ more, name ∈ names) :
    insertAll names more = names := by
  have none : more.removeAll names = [] := by
    simpa [List.removeAll, List.filter_eq_nil_iff] using held
  rw [insertAll_eq_append, none]
  simp

/-- Names that do not repeat are their first occurrences. -/
theorem firstOccurrences_of_nodup {names : List String} (distinct : names.Nodup) :
    firstOccurrences names = names := by
  induction names using List.reverseRecOn with
  | nil => rfl
  | append_singleton front last ih =>
    obtain ⟨before, _, apart⟩ := List.nodup_append.mp distinct
    have fresh : last ∉ front := fun member => apart last member last (by simp) rfl
    rw [firstOccurrences, insertAll_append, ← firstOccurrences, ih before]
    simp [insertAll, insertNew, fresh]

/-- The same component without its parents. -/
def Record.unparented (record : Record) : Record := { record with parents := [] }

namespace Catalog

/-! ## Catalogs without parents -/

/-- The same components without their parents. -/
def unparented (catalog : Catalog) : Catalog := catalog.map Record.unparented

/-- Taking parents away leaves the keys alone. -/
@[simp] theorem keys_unparented (catalog : Catalog) : catalog.unparented.keys = catalog.keys :=
  keys_map _ _

/-- Every record is found without its parents. -/
theorem get?_unparented (catalog : Catalog) (key : String) :
    catalog.unparented.get? key = (catalog.get? key).map Record.unparented := get?_map _ _ _

/-- Which records list a child does not depend on parents. -/
theorem parentsOf_unparented (catalog : Catalog) (child : String) :
    catalog.unparented.parentsOf child = catalog.parentsOf child := by
  have records : catalog.unparented.records = catalog.records.map Record.unparented := by
    simp [Catalog.records, unparented, map]
  rw [parentsOf, records, List.filter_map, List.map_map]
  rfl

/-- A pass changes nothing but parents. -/
theorem unparented_deriveParents (catalog : Catalog) :
    catalog.deriveParents.unparented = catalog.unparented := by
  apply ext_get?
  · rw [keys_unparented, keys_unparented, keys_deriveParents]
  · intro key
    rw [get?_unparented, get?_unparented, get?_deriveParents, Option.map_map]
    rfl

/-- A definition is entered without a look at parents. -/
theorem unparented_addUsage (catalog : Catalog) (filePath : String) (usage : Usage) :
    (catalog.addUsage filePath usage).unparented =
      catalog.unparented.addUsage filePath usage := by
  cases component : isName usage.name with
  | false => rw [addUsage_of_not_isName _ component, addUsage_of_not_isName _ component]
  | true =>
    apply ext_get?
    · rw [keys_unparented, keys_addUsage _ component, keys_addUsage _ component, keys_unparented]
    · intro key
      rw [get?_unparented, get?_addUsage _ component, get?_addUsage _ component, get?_unparented]
      split
      · cases catalog.get? key <;> rfl
      · rfl

/-- A file is merged without a look at parents. -/
theorem unparented_merge (catalog : Catalog) (findings : Findings) :
    (catalog.merge findings).unparented = catalog.unparented.merge findings := by
  rw [merge, merge]
  split
  · exact (List.foldl_hom unparented fun catalog usage =>
      (unparented_addUsage catalog findings.relPath usage).symm).symm
  · rfl

/-- Merging enters no parents. -/
theorem unparented_ofFindings (all : List Findings) :
    (ofFindings all).unparented = ofFindings all :=
  (List.foldl_hom unparented fun catalog findings =>
    (unparented_merge catalog findings).symm).symm

/-! ## Stages -/

/-- A stage of the making of a catalog. -/
inductive Stage where
  | merge (findings : Findings)
  | deriveParents

/-- The change that a stage makes. -/
def Stage.change : Stage → Change
  | .merge findings => .merge findings
  | .deriveParents => .deriveParents

/-- The findings that a stage merges. -/
def Stage.findings? : Stage → Option Findings
  | .merge findings => some findings
  | .deriveParents => none

/-- The catalog after stages in turn, from the one without entries. -/
def staged (stages : List Stage) : Catalog := grown (stages.map Stage.change)

/-- Without its parents a catalog is what its merges alone make of it.

Induction on the stages from their end: a merge goes on from what the induction gives, and a pass
changes nothing that is left. -/
theorem unparented_staged (stages : List Stage) :
    (staged stages).unparented = ofFindings (stages.filterMap Stage.findings?) := by
  induction stages using List.reverseRecOn with
  | nil => rfl
  | append_singleton stages last ih =>
    have step : staged (stages ++ [last]) = ((staged stages).perform last.change).2 := by
      simp [staged, grown]
    rw [step, List.filterMap_append]
    cases last with
    | merge findings =>
      have only : [Stage.merge findings].filterMap Stage.findings? = [findings] := rfl
      rw [only, ofFindings_append_singleton, ← ih, ← unparented_merge]
      rfl
    | deriveParents =>
      have none : [Stage.deriveParents].filterMap Stage.findings? = [] := rfl
      rw [none, List.append_nil, ← ih]
      exact unparented_deriveParents (staged stages)

/-! ## The last pass -/

/-- Child edges do not depend on parents. -/
theorem hasChild_unparented {catalog : Catalog} {key child : String} :
    catalog.unparented.HasChild key child ↔ catalog.HasChild key child := by
  simp [Links, get?_unparented, Record.unparented]

/-- A pass over two sound catalogs that differ in parents only gives the same keys and records
that differ in the order of parents only. -/
theorem Sound.rearranged_of_unparented {left right : Catalog} (leftSound : left.Sound)
    (rightSound : right.Sound) (same : left.unparented = right.unparented) :
    left.deriveParents.keys = right.deriveParents.keys ∧
      left.deriveParents.Rearranged right.deriveParents := by
  have keys : left.deriveParents.keys = right.deriveParents.keys := by
    rw [keys_deriveParents, keys_deriveParents, ← keys_unparented, same, keys_unparented]
  refine ⟨keys, .of_eq keys, ?_⟩
  intro key record other found again
  have bare : record.unparented = other.unparented := by
    have here := get?_unparented left.deriveParents key
    have there := get?_unparented right.deriveParents key
    rw [found, unparented_deriveParents, same] at here
    rw [again, unparented_deriveParents] at there
    exact Option.some.inj (here.symm.trans there)
  refine ⟨congrArg (·.name) bare, congrArg (·.filePath) bare, congrArg (·.children) bare, ?_⟩
  apply (List.perm_ext_iff_of_nodup (leftSound.unrepeated.deriveParents key record found).2
    (rightSound.unrepeated.deriveParents key other again).2).mpr
  intro parent
  have here := mem_keys_of_get? found
  have there := mem_keys_of_get? again
  rw [keys_deriveParents] at here there
  calc parent ∈ record.parents
      ↔ left.deriveParents.HasParent key parent := (links_iff found).symm
    _ ↔ left.HasChild parent key :=
        leftSound.justified.hasParent_deriveParents leftSound.named here
    _ ↔ right.HasChild parent key := by rw [← hasChild_unparented, same, hasChild_unparented]
    _ ↔ right.deriveParents.HasParent key parent :=
        (rightSound.justified.hasParent_deriveParents rightSound.named there).symm
    _ ↔ parent ∈ other.parents := links_iff again

/-- A pass does not change which records list a child. -/
theorem parentsOf_deriveParents (catalog : Catalog) (child : String) :
    catalog.deriveParents.parentsOf child = catalog.parentsOf child := by
  rw [← parentsOf_unparented, unparented_deriveParents, parentsOf_unparented]

/-- A pass right after a pass changes nothing. -/
theorem deriveParents_deriveParents (catalog : Catalog) :
    catalog.deriveParents.deriveParents = catalog.deriveParents := by
  apply ext_get?
  · rw [keys_deriveParents]
  · intro key
    rw [get?_deriveParents, parentsOf_deriveParents, get?_deriveParents, Option.map_map]
    congr 1
    funext record
    simp only [Function.comp_apply]
    rw [insertAll_of_subset fun name member => mem_insertAll.mpr (.inr member)]

/-- The records that list a child stand under the keys that list it, in order. -/
theorem Named.parentsOf_eq {catalog : Catalog} (named : catalog.Named) (child : String) :
    catalog.parentsOf child =
      catalog.keys.filter fun parent => (catalog.get? parent).any (·.children.contains child) := by
  rw [parentsOf, ← named.map_name_records, List.filter_map]
  congr 1
  apply List.filter_congr
  intro record listed
  simp [named.get?_name listed]

/-- The pass after all merges gives each key the keys that list it as its parents, in order. -/
theorem parents_of_merged {all : List Findings} {key : String} {record : Record}
    (found : (ofFindings all).deriveParents.get? key = some record) :
    record.parents = (ofFindings all).deriveParents.keys.filter fun parent =>
      ((ofFindings all).deriveParents.get? parent).any (·.children.contains key) := by
  have named := (named_ofFindings all).deriveParents
  rw [← named.parentsOf_eq, parentsOf_deriveParents]
  rw [get?_deriveParents, Option.map_eq_some_iff] at found
  obtain ⟨before, old, rfl⟩ := found
  obtain ⟨filePath, rfl⟩ := eq_of_get?_ofFindings old
  apply firstOccurrences_of_nodup
  rw [(named_ofFindings all).parentsOf_eq]
  exact (ofFindings all).distinct.filter _

/-- A merged catalog is sound. -/
theorem sound_ofFindings (all : List Findings) : (ofFindings all).Sound where
  named := named_ofFindings all
  components _ present := (mem_keys_ofFindings.mp present).1
  unrepeated := unrepeated_ofFindings all
  justified := justified_ofFindings all

/-- Passes between merges show in the order of parents only, once a last pass is made: the keys in
their order, names, paths and children are those that the merges and one pass give, and the
parents are the same in some order. Without passes in between, the parents of each key are the
keys that list it, in order. A pass right after a pass changes nothing. -/
theorem early_passes_reorder_parents (stages : List Stage) :
    let plain := (ofFindings (stages.filterMap Stage.findings?)).deriveParents
    (staged stages).deriveParents.keys = plain.keys ∧
    (∀ key record other, (staged stages).deriveParents.get? key = some record →
      plain.get? key = some other → record.name = other.name ∧ record.filePath = other.filePath ∧
        record.children = other.children ∧ record.parents.Perm other.parents) ∧
    (∀ key record, plain.get? key = some record → record.parents = plain.keys.filter fun parent =>
      (plain.get? parent).any (·.children.contains key)) ∧
    ∀ catalog : Catalog, catalog.deriveParents.deriveParents = catalog.deriveParents := by
  have merged := sound_ofFindings (stages.filterMap Stage.findings?)
  have same : (staged stages).unparented =
      (ofFindings (stages.filterMap Stage.findings?)).unparented := by
    rw [unparented_staged, unparented_ofFindings]
  obtain ⟨keys, rearranged⟩ := (Sound.grown _).rearranged_of_unparented merged same
  refine ⟨keys, ?_, fun key record found => parents_of_merged found, deriveParents_deriveParents⟩
  intro key record other found again
  have records := rearranged.records key record other found again
  exact ⟨records.name, records.filePath, records.children, records.parents⟩

end Catalog

end ComponentAtlas.Component
