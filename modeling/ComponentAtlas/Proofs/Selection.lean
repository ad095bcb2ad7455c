import ComponentAtlas.Component.Selection
import ComponentAtlas.Proofs.Parents

/-!
# Selections

A selection holds the keys whose record lies under a fragment of a path, and of every record
the neighbours among those keys. So its edges are the edges of the catalog between selected
keys, children and parents alike, and what holds of the two sides of an edge in the catalog
holds in the selection.
-/

namespace ComponentAtlas.Component.Catalog

variable {catalog : Catalog} {includePath : String}

/-- A selection has the keys of the records that lie under the fragment, in their order. -/
theorem keys_select (catalog : Catalog) (includePath : String) :
    (catalog.select includePath).keys = (catalog.filter (·.liesUnder includePath)).keys :=
  keys_map _ _

/-- A selection finds the records that lie under the fragment, without the neighbours that
are not selected. -/
theorem get?_select (catalog : Catalog) (includePath key : String) :
    (catalog.select includePath).get? key =
      ((catalog.get? key).filter (·.liesUnder includePath)).map
        (·.restrict (catalog.select includePath).has) := by
  have same : (catalog.select includePath).has =
      (catalog.filter (·.liesUnder includePath)).has := by
    funext name
    rw [has, keys_select, has]
  rw [same, select, get?_map, get?_filter]

/-- What a selection finds is a record of the catalog under the fragment, cut to the selection. -/
theorem get?_select_eq_some {key : String} {record : Record}
    (found : (catalog.select includePath).get? key = some record) :
    ∃ whole, catalog.get? key = some whole ∧ whole.liesUnder includePath = true ∧
      record = whole.restrict (catalog.select includePath).has := by
  rw [get?_select, Option.map_eq_some_iff] at found
  obtain ⟨whole, kept, rfl⟩ := found
  obtain ⟨held, under⟩ := Option.filter_eq_some_iff.mp kept
  exact ⟨whole, held, under, rfl⟩

/-- A selected key finds the catalog's record, cut to the selection. -/
theorem get?_select_of_mem {key : String} (selected : key ∈ (catalog.select includePath).keys) :
    ∃ whole, catalog.get? key = some whole ∧
      (catalog.select includePath).get? key =
        some (whole.restrict (catalog.select includePath).has) := by
  obtain ⟨record, found⟩ := exists_get? selected
  obtain ⟨whole, held, _, rfl⟩ := get?_select_eq_some found
  exact ⟨whole, held, found⟩

/-- The selected keys are those whose record lies under the fragment. -/
theorem mem_keys_select {key : String} :
    key ∈ (catalog.select includePath).keys ↔
      ∃ record, catalog.get? key = some record ∧ record.liesUnder includePath = true := by
  rw [← isSome_get?, get?_select, Option.isSome_map, Option.isSome_iff_exists]
  simp only [Option.filter_eq_some_iff]

/-- The edges of a selection are those of the catalog between selected keys, on a side that a
selection cuts. -/
theorem links_select {side : Record → List String}
    (cut : ∀ keep record, side (record.restrict keep) = (side record).filter keep)
    {key name : String} :
    (catalog.select includePath).Links side key name ↔
      catalog.Links side key name ∧ key ∈ (catalog.select includePath).keys ∧
        name ∈ (catalog.select includePath).keys := by
  constructor
  · rintro ⟨record, found, lists⟩
    obtain ⟨whole, held, _, rfl⟩ := get?_select_eq_some found
    rw [cut] at lists
    obtain ⟨listed, selected⟩ := List.mem_filter.mp lists
    exact ⟨⟨whole, held, listed⟩, mem_keys_of_get? found, has_iff.mp selected⟩
  · rintro ⟨⟨whole, held, listed⟩, selected, kept⟩
    obtain ⟨other, again, found⟩ := get?_select_of_mem selected
    obtain rfl := Option.some.inj (again.symm.trans held)
    refine ⟨_, found, ?_⟩
    rw [cut]
    exact List.mem_filter.mpr ⟨listed, has_iff.mpr kept⟩

/-- The child edges of a selection are those of the catalog between selected keys. -/
theorem hasChild_select {key child : String} :
    (catalog.select includePath).HasChild key child ↔
      catalog.HasChild key child ∧ key ∈ (catalog.select includePath).keys ∧
        child ∈ (catalog.select includePath).keys := links_select fun _ _ => rfl

/-- The parent edges of a selection are those of the catalog between selected keys. -/
theorem hasParent_select {key parent : String} :
    (catalog.select includePath).HasParent key parent ↔
      catalog.HasParent key parent ∧ key ∈ (catalog.select includePath).keys ∧
        parent ∈ (catalog.select includePath).keys := links_select fun _ _ => rfl

/-- A selected key is a key. -/
theorem mem_keys_of_select {key : String} (selected : key ∈ (catalog.select includePath).keys) :
    key ∈ catalog.keys := by
  obtain ⟨_, held, _⟩ := get?_select_of_mem selected
  exact mem_keys_of_get? held

/-- Selected records keep their names. -/
theorem Named.select (named : catalog.Named) : (catalog.select includePath).Named := by
  intro key record found
  obtain ⟨whole, held, _, rfl⟩ := get?_select_eq_some found
  exact named key whole held

/-- Nothing is repeated in a selection that was not repeated before. -/
theorem Unrepeated.select (unrepeated : catalog.Unrepeated) :
    (catalog.select includePath).Unrepeated := by
  intro key record found
  obtain ⟨whole, held, _, rfl⟩ := get?_select_eq_some found
  obtain ⟨children, parents⟩ := unrepeated key whole held
  exact ⟨children.filter _, parents.filter _⟩

/-- Where children and parents mirror each other, they do so in every selection. -/
theorem Mirrored.select (mirrored : catalog.Mirrored) :
    (catalog.select includePath).Mirrored := by
  intro parent above child below
  rw [hasChild_select, hasParent_select,
    mirrored parent (mem_keys_of_select above) child (mem_keys_of_select below)]
  simp only [above, below, and_true]

/-- The neighbours of a selected record are selected. -/
theorem neighbours_selected {record : Record}
    (listed : record ∈ (catalog.select includePath).records) {name : String}
    (neighbour : name ∈ record.children ∨ name ∈ record.parents) :
    name ∈ (catalog.select includePath).keys := by
  obtain ⟨key, found⟩ := mem_records_iff.mp listed
  rcases neighbour with child | parent
  · exact (hasChild_select.mp ⟨record, found, child⟩).2.2
  · exact (hasParent_select.mp ⟨record, found, parent⟩).2.2

end ComponentAtlas.Component.Catalog
