import ComponentAtlas.Proofs.Merging

/-!
# Children and parents

A catalog tells of its edges twice, as children of one record and as parents of the other.
Merging writes children only; one pass derives the parents. If every parent is justified by a
child edge before a pass, it is so afterwards, and then the two sides mirror each other on the
keys.
-/

namespace ComponentAtlas.Component

/-- A name inserted again stays where it is. -/
theorem insertNew_insertNew (names : List String) (name : String) :
    insertNew (insertNew names name) name = insertNew names name := by
  have present : name ∈ insertNew names name := mem_insertNew.mpr (.inr rfl)
  rw [insertNew, if_pos (by simpa using present)]

namespace Catalog

/-! ## Edges -/

/-- The record of a key lists a name on a side: among its children or among its parents. -/
def Links (catalog : Catalog) (side : Record → List String) (key name : String) : Prop :=
  ∃ record, catalog.get? key = some record ∧ name ∈ side record

/-- The record of a key lists a child. -/
abbrev HasChild (catalog : Catalog) : String → String → Prop := catalog.Links Record.children

/-- The record of a key lists a parent. -/
abbrev HasParent (catalog : Catalog) : String → String → Prop := catalog.Links Record.parents

/-- Each record stands under its own name. -/
def Named (catalog : Catalog) : Prop :=
  ∀ key record, catalog.get? key = some record → record.name = key

/-- No record repeats a neighbour. -/
def Unrepeated (catalog : Catalog) : Prop :=
  ∀ key record, catalog.get? key = some record → record.children.Nodup ∧ record.parents.Nodup

/-- Each parent lists the record as a child. -/
def Justified (catalog : Catalog) : Prop :=
  ∀ key parent, catalog.HasParent key parent → catalog.HasChild parent key

/-- Among the keys children and parents mirror each other. -/
def Mirrored (catalog : Catalog) : Prop :=
  ∀ parent ∈ catalog.keys, ∀ child ∈ catalog.keys,
    catalog.HasChild parent child ↔ catalog.HasParent child parent

/-- What lists a name is a key. -/
theorem Links.present {catalog : Catalog} {side : Record → List String} {key name : String}
    (link : catalog.Links side key name) : key ∈ catalog.keys := by
  obtain ⟨_, found, _⟩ := link
  exact mem_keys_of_get? found

/-- What a key lists is what its record lists. -/
theorem links_iff {catalog : Catalog} {side : Record → List String} {key name : String}
    {record : Record} (found : catalog.get? key = some record) :
    catalog.Links side key name ↔ name ∈ side record := by
  simp [Links, found]

/-- A record of a catalog whose records stand under their names is found under its name. -/
theorem Named.get?_name {catalog : Catalog} (named : catalog.Named) {record : Record}
    (listed : record ∈ catalog.records) : catalog.get? record.name = some record := by
  obtain ⟨key, found⟩ := mem_records_iff.mp listed
  rw [named key record found]
  exact found

/-- The names of the records are the keys, where records stand under their names. -/
theorem Named.map_name_records {catalog : Catalog} (named : catalog.Named) :
    catalog.records.map (·.name) = catalog.keys := by
  rw [records, keys, Keyed.keys, List.map_map]
  apply List.map_congr_left
  rintro ⟨key, record⟩ member
  exact named key record ((Keyed.mem_iff_get? catalog.distinct key record).mp member)

/-! ## The pass -/

/-- The names of the records that list a child, in order. -/
def parentsOf (catalog : Catalog) (child : String) : List String :=
  (catalog.records.filter (·.children.contains child)).map (·.name)

/-- The records that list a child are those of the keys that have it. -/
theorem mem_parentsOf {catalog : Catalog} (named : catalog.Named) {parent child : String} :
    parent ∈ catalog.parentsOf child ↔ catalog.HasChild parent child := by
  simp only [parentsOf, List.mem_map, List.mem_filter, List.contains_iff_mem]
  constructor
  · rintro ⟨record, ⟨listed, lists⟩, rfl⟩
    exact ⟨record, named.get?_name listed, lists⟩
  · rintro ⟨record, found, lists⟩
    exact ⟨record, ⟨mem_records_iff.mpr ⟨parent, found⟩, lists⟩, named parent record found⟩

/-- A parent is entered in records that are there. -/
@[simp] theorem keys_enterParent (catalog : Catalog) (record : Record) :
    (catalog.enterParent record).keys = catalog.keys := by
  unfold enterParent
  induction record.children generalizing catalog with
  | nil => rfl
  | cons child rest ih => rw [List.foldl_cons, ih, keys_adjust]

/-- Entering a record as a parent adds its name to the parents of its children only. -/
theorem get?_enterParent (catalog : Catalog) (record : Record) (key : String) :
    (catalog.enterParent record).get? key =
      if record.children.contains key then (catalog.get? key).map (·.addParent record.name)
      else catalog.get? key := by
  unfold enterParent
  induction record.children generalizing catalog with
  | nil => rfl
  | cons child rest ih =>
    rw [List.foldl_cons, ih, get?_adjust]
    by_cases same : key = child
    · subst same
      by_cases again : key ∈ rest
      · cases catalog.get? key <;> simp [again, Record.addParent, insertNew_insertNew]
      · simp [again]
    · simp [same]

/-- So it is with several parents in turn. -/
@[simp] theorem keys_foldl_enterParent (catalog : Catalog) (listed : List Record) :
    (listed.foldl enterParent catalog).keys = catalog.keys := by
  induction listed generalizing catalog with
  | nil => rfl
  | cons record rest ih => rw [List.foldl_cons, ih, keys_enterParent]

/-- Entering records in turn adds the names of those that list a key to its parents. -/
theorem get?_foldl_enterParent (catalog : Catalog) (listed : List Record) (key : String) :
    (listed.foldl enterParent catalog).get? key = (catalog.get? key).map fun record =>
      { record with
        parents := insertAll record.parents
          ((listed.filter (·.children.contains key)).map (·.name)) } := by
  induction listed generalizing catalog with
  | nil => simp [insertAll]
  | cons first rest ih =>
    rw [List.foldl_cons, ih, get?_enterParent]
    by_cases lists : key ∈ first.children
    · cases catalog.get? key <;> simp [lists, Record.addParent, insertAll]
    · simp [lists]

/-- Of a record that is entered as a parent, only its name and its children matter. -/
theorem enterParent_congr (catalog : Catalog) {record other : Record}
    (name : record.name = other.name) (children : record.children = other.children) :
    catalog.enterParent record = catalog.enterParent other := by
  rw [enterParent, enterParent, name, children]

/-- What entering records has made of a catalog: its records have their names and their children
still. -/
def Outlines (before now : Catalog) : Prop :=
  ∀ key record, before.get? key = some record →
    ∃ current, now.get? key = some current ∧ current.name = record.name ∧
      current.children = record.children

/-- Entering a parent leaves what is outlined. -/
theorem Outlines.enterParent {before now : Catalog} (outlines : before.Outlines now)
    (record : Record) : before.Outlines (now.enterParent record) := by
  intro key old found
  obtain ⟨current, present, name, children⟩ := outlines key old found
  rw [get?_enterParent, present]
  split
  case isTrue => exact ⟨_, rfl, name, children⟩
  case isFalse => exact ⟨_, rfl, name, children⟩

/-- A record that is taken when its turn comes is entered as the one that stood there before the
pass. The induction is on the rows that are left. -/
theorem foldl_enterParentAt {before now : Catalog} (outlines : before.Outlines now)
    {rows : List (String × Record)} (stood : ∀ row ∈ rows, before.get? row.1 = some row.2) :
    (rows.map (·.1)).foldl enterParentAt now = (rows.map (·.2)).foldl enterParent now := by
  induction rows generalizing now with
  | nil => rfl
  | cons row rest ih =>
    obtain ⟨current, present, name, children⟩ := outlines row.1 row.2 (stood row List.mem_cons_self)
    have turn : now.enterParentAt row.1 = now.enterParent row.2 := by
      rw [enterParentAt, present]
      exact enterParent_congr now name children
    have later := ih (outlines.enterParent row.2) fun other listed =>
      stood other (List.mem_cons_of_mem _ listed)
    rw [List.map_cons, List.foldl_cons, turn, later, List.map_cons, List.foldl_cons]

/-- Children are not touched by the pass, so the records can be taken as they are before it. -/
theorem deriveParents_eq_foldl (catalog : Catalog) :
    catalog.deriveParents = catalog.records.foldl enterParent catalog := by
  have unchanged : catalog.Outlines catalog := fun _ record found => ⟨record, found, rfl, rfl⟩
  exact foldl_enterParentAt unchanged fun row listed =>
    (Keyed.mem_iff_get? catalog.distinct row.1 row.2).mp listed

/-- The pass keeps the keys. -/
@[simp] theorem keys_deriveParents (catalog : Catalog) :
    catalog.deriveParents.keys = catalog.keys := by
  rw [deriveParents_eq_foldl, keys_foldl_enterParent]

/-- The pass adds to the parents of a record the names of all records that list its key, in
order, and changes nothing else. -/
theorem get?_deriveParents (catalog : Catalog) (key : String) :
    catalog.deriveParents.get? key = (catalog.get? key).map fun record =>
      { record with parents := insertAll record.parents (catalog.parentsOf key) } := by
  rw [deriveParents_eq_foldl]
  exact get?_foldl_enterParent catalog catalog.records key

/-- The pass leaves names and children as they are. -/
theorem hasChild_deriveParents {catalog : Catalog} {key child : String} :
    catalog.deriveParents.HasChild key child ↔ catalog.HasChild key child := by
  simp [Links, get?_deriveParents]

/-- After the pass the parents of a key are those it had and all that list it. -/
theorem hasParent_deriveParents {catalog : Catalog} (named : catalog.Named)
    {key parent : String} :
    catalog.deriveParents.HasParent key parent ↔
      key ∈ catalog.keys ∧ (catalog.HasParent key parent ∨ catalog.HasChild parent key) := by
  constructor
  · rintro ⟨derived, found, member⟩
    rw [get?_deriveParents, Option.map_eq_some_iff] at found
    obtain ⟨record, before, rfl⟩ := found
    rw [mem_insertAll, mem_parentsOf named] at member
    exact ⟨mem_keys_of_get? before, member.imp_left fun old => ⟨record, before, old⟩⟩
  · rintro ⟨present, edge⟩
    obtain ⟨record, found⟩ := exists_get? present
    refine ⟨_, by rw [get?_deriveParents, found]; rfl, ?_⟩
    rw [mem_insertAll, mem_parentsOf named]
    exact edge.imp_left (links_iff found).mp

/-- Records keep their names when parents are derived. -/
theorem Named.deriveParents {catalog : Catalog} (named : catalog.Named) :
    catalog.deriveParents.Named := by
  intro key record found
  rw [get?_deriveParents, Option.map_eq_some_iff] at found
  obtain ⟨before, old, rfl⟩ := found
  exact named key before old

/-- No parent is entered twice, and the children stay as they are. -/
theorem Unrepeated.deriveParents {catalog : Catalog} (unrepeated : catalog.Unrepeated) :
    catalog.deriveParents.Unrepeated := by
  intro key record found
  rw [get?_deriveParents, Option.map_eq_some_iff] at found
  obtain ⟨before, old, rfl⟩ := found
  obtain ⟨children, parents⟩ := unrepeated key before old
  exact ⟨children, nodup_insertAll parents _⟩

/-- The pass keeps parents justified. -/
theorem Justified.deriveParents {catalog : Catalog} (justified : catalog.Justified)
    (named : catalog.Named) : catalog.deriveParents.Justified := by
  intro key parent edge
  rw [hasChild_deriveParents]
  obtain ⟨_, old | lists⟩ := (hasParent_deriveParents named).mp edge
  · exact justified key parent old
  · exact lists

/-- After the pass the parents of a key are all that list it, if every earlier parent was
justified. -/
theorem Justified.hasParent_deriveParents {catalog : Catalog} (justified : catalog.Justified)
    (named : catalog.Named) {key parent : String} (present : key ∈ catalog.keys) :
    catalog.deriveParents.HasParent key parent ↔ catalog.HasChild parent key := by
  rw [Catalog.hasParent_deriveParents named]
  constructor
  · rintro ⟨_, old | lists⟩
    · exact justified key parent old
    · exact lists
  · intro lists
    exact ⟨present, .inr lists⟩

/-- After the pass the two sides mirror each other, if every earlier parent was justified. -/
theorem Justified.mirrored_deriveParents {catalog : Catalog} (justified : catalog.Justified)
    (named : catalog.Named) : catalog.deriveParents.Mirrored := by
  intro parent _ child present
  rw [keys_deriveParents] at present
  rw [hasChild_deriveParents, justified.hasParent_deriveParents named present]

/-! ## Merged findings -/

/-- In a merged catalog each record stands under its own name. -/
theorem named_ofFindings (all : List Findings) : (ofFindings all).Named := by
  intro key record found
  obtain ⟨filePath, rfl⟩ := eq_of_get?_ofFindings found
  rfl

/-- A merged catalog has the edges from its keys to what their definitions render. -/
theorem hasChild_ofFindings {all : List Findings} {key child : String} :
    (ofFindings all).HasChild key child ↔
      isName key = true ∧
        ∃ usage ∈ countedUsages all, usage.name = key ∧ child ∈ usage.children := by
  constructor
  · rintro ⟨record, found, lists⟩
    have component := (mem_keys_ofFindings.mp (mem_keys_of_get? found)).1
    obtain ⟨filePath, rfl⟩ := eq_of_get?_ofFindings found
    exact ⟨component, mem_childrenOf.mp (mem_firstOccurrences.mp lists)⟩
  · rintro ⟨component, usage, counted, named, lists⟩
    have present := mem_keys_ofFindings.mpr ⟨component, usage, counted, named⟩
    obtain ⟨record, found⟩ := exists_get? present
    obtain ⟨filePath, rfl⟩ := eq_of_get?_ofFindings found
    exact ⟨_, found, mem_firstOccurrences.mpr (mem_childrenOf.mpr ⟨usage, counted, named, lists⟩)⟩

/-- A merged catalog has no parents yet. -/
theorem not_hasParent_ofFindings (all : List Findings) (key parent : String) :
    ¬ (ofFindings all).HasParent key parent := by
  rintro ⟨record, found, member⟩
  obtain ⟨filePath, rfl⟩ := eq_of_get?_ofFindings found
  cases member

/-- A merged catalog repeats no neighbour. -/
theorem unrepeated_ofFindings (all : List Findings) : (ofFindings all).Unrepeated := by
  intro key record found
  obtain ⟨filePath, rfl⟩ := eq_of_get?_ofFindings found
  exact ⟨nodup_firstOccurrences _, List.nodup_nil⟩

/-- The parents of a merged catalog are justified, since it has none. -/
theorem justified_ofFindings (all : List Findings) : (ofFindings all).Justified :=
  fun key parent edge => absurd edge (not_hasParent_ofFindings all key parent)

end Catalog

end ComponentAtlas.Component
