import ComponentAtlas.Proofs.Parents

/-!
# Catalogs under changes

A catalog changes in four ways: a component is registered, children are added to one, the
findings of a file are merged, parents are derived. The changes may come in any order, parents
may be derived more than once and between merges, and one change can be refused.

Two things hold along every row of changes. The catalog stays sound: records stand under their
names, which are component names, repeat no neighbour, and list only parents that list them.
This is the side of an edge that no change breaks; the other side may be open until parents
are derived. And the catalog only grows: what it held stays in front, keys and neighbours
alike.

Every change is made of three kinds of steps, a new record at the end, a change of one record
that adds to it, and the derivation of parents. The laws are proved for these.
-/

namespace ComponentAtlas.Component

/-! ## Growing records -/

/-- The same component with more neighbours, which come after those that it had. -/
structure Record.Grows (before after : Record) : Prop where
  name : after.name = before.name
  children : before.children <+: after.children
  parents : before.parents <+: after.parents

namespace Record.Grows

/-- A record that stays as it is has grown by nothing. -/
theorem refl (record : Record) : record.Grows record := ⟨rfl, List.prefix_rfl, List.prefix_rfl⟩

/-- Growing twice is growing. -/
theorem trans {first second third : Record} (early : first.Grows second)
    (late : second.Grows third) : first.Grows third where
  name := late.name.trans early.name
  children := early.children.trans late.children
  parents := early.parents.trans late.parents

/-- A record that moves to another file keeps its neighbours. -/
theorem move (record : Record) (filePath : String) : record.Grows { record with filePath } :=
  ⟨rfl, List.prefix_rfl, List.prefix_rfl⟩

/-- New children go to the end. -/
theorem addChildren (record : Record) (names : List String) :
    record.Grows (record.addChildren names) :=
  ⟨rfl, prefix_insertAll record.children names, List.prefix_rfl⟩

end Record.Grows

namespace Catalog

/-! ## Changes -/

/-- A change of a catalog. -/
inductive Change where
  | register (name filePath : String)
  | addChildren (name : String) (children : List String)
  | merge (findings : Findings)
  | deriveParents

/-- Makes a change. If it asks for a name that the catalog does not hold, it is refused for that
name and nothing is changed. -/
def perform (catalog : Catalog) : Change → Option Unknown × Catalog
  | .register name filePath => (none, catalog.register name filePath)
  | .addChildren name children =>
    match catalog.addChildren name children with
    | .ok changed => (none, changed)
    | .error unknown => (some unknown, catalog)
  | .merge findings => (none, catalog.merge findings)
  | .deriveParents => (none, catalog.deriveParents)

/-- The catalog after changes in turn, from the one without entries. -/
def grown (changes : List Change) : Catalog :=
  changes.foldl (fun catalog change => (catalog.perform change).2) empty

/-- Adding children to a name that is held changes its record. -/
theorem perform_addChildren_of_mem {catalog : Catalog} {name : String}
    (present : name ∈ catalog.keys) (children : List String) :
    catalog.perform (.addChildren name children) =
      (none, catalog.adjust name (·.addChildren children)) := by
  rw [perform, addChildren, if_pos (has_iff.mpr present)]

/-- Adding children to a name that is not held is refused. -/
theorem perform_addChildren_of_not_mem {catalog : Catalog} {name : String}
    (absent : name ∉ catalog.keys) (children : List String) :
    catalog.perform (.addChildren name children) = (some ⟨name⟩, catalog) := by
  rw [perform, addChildren, if_neg (by simpa [has_iff] using absent)]

/-- A record that is found after one was put is that one or was found before. -/
theorem get?_set_eq_some {catalog : Catalog} {name key : String} {record found : Record}
    (after : (catalog.set name record).get? key = some found) :
    (name = key ∧ record = found) ∨ catalog.get? key = some found := by
  rw [get?_set] at after
  split at after
  case isTrue same => exact .inl ⟨same.symm, Option.some.inj after⟩
  case isFalse => exact .inr after

/-- A record that is found after a change of one was found before, or is what a record found
before was changed to. -/
theorem get?_adjust_eq_some {catalog : Catalog} {name key : String} {change : Record → Record}
    {found : Record} (after : (catalog.adjust name change).get? key = some found) :
    ∃ old, catalog.get? key = some old ∧ (old = found ∨ change old = found) := by
  rw [get?_adjust] at after
  split at after
  case isTrue =>
    obtain ⟨old, before, changed⟩ := Option.map_eq_some_iff.mp after
    exact ⟨old, before, .inr changed⟩
  case isFalse => exact ⟨found, after, .inl rfl⟩

/-- A record that was found before a change that makes records grow is found, grown, after it. -/
theorem exists_get?_adjust {catalog : Catalog} {key : String} {record : Record}
    (before : catalog.get? key = some record) (name : String) {change : Record → Record}
    (grows : ∀ record : Record, record.Grows (change record)) :
    ∃ later, (catalog.adjust name change).get? key = some later ∧ record.Grows later := by
  rw [get?_adjust, before]
  split
  · exact ⟨change record, rfl, grows record⟩
  · exact ⟨record, rfl, .refl record⟩

/-- Registering does nothing, puts a new record at the end, or moves a record to a file. -/
theorem register_cases (catalog : Catalog) (name filePath : String) :
    catalog.register name filePath = catalog ∨
    (isName name = true ∧ name ∉ catalog.keys ∧
      catalog.register name filePath = catalog.set name (.solitary name filePath)) ∨
    catalog.register name filePath =
      catalog.adjust name fun record => { record with filePath } := by
  cases component : isName name with
  | false => exact .inl (by simp [register, component])
  | true =>
    cases found : catalog.get? name with
    | none =>
      have absent : name ∉ catalog.keys := by
        rw [← isSome_get?, found]
        simp
      exact .inr (.inl ⟨rfl, absent, by simp [register, component, found]⟩)
    | some record => exact .inr (.inr (by simp [register, component, found]))

/-- A property that registering keeps, and adding children, is kept by merging. -/
theorem merge_induction {motive : Catalog → Prop}
    (registered : ∀ catalog name filePath, motive catalog → motive (catalog.register name filePath))
    (extended : ∀ catalog name children, motive catalog →
      motive (catalog.adjust name (·.addChildren children)))
    {catalog : Catalog} (start : motive catalog) (findings : Findings) :
    motive (catalog.merge findings) := by
  rw [merge]
  split
  case isFalse => exact start
  case isTrue =>
    induction findings.usages generalizing catalog with
    | nil => exact start
    | cons usage rest ih =>
      apply ih
      rw [addUsage]
      split
      · exact extended _ _ _ (registered _ _ _ start)
      · exact start

/-! ## Sound catalogs -/

/-- What holds of a catalog under all changes. -/
structure Sound (catalog : Catalog) : Prop where
  named : catalog.Named
  components : ∀ key ∈ catalog.keys, isName key = true
  unrepeated : catalog.Unrepeated
  justified : catalog.Justified

namespace Sound

/-- The empty graph is sound. -/
theorem empty : empty.Sound := by
  refine ⟨?_, ?_, ?_, ?_⟩
  · intro key record found
    cases found
  · intro key present
    cases present
  · intro key record found
    cases found
  · rintro key parent ⟨record, found, _⟩
    cases found

variable {catalog : Catalog}

/-- A new record without neighbours keeps a catalog sound. No record lists its name as a parent,
since a parent is a key. -/
theorem set (sound : catalog.Sound) {name : String} (component : isName name = true)
    (absent : name ∉ catalog.keys) (filePath : String) :
    (catalog.set name (.solitary name filePath)).Sound where
  named := by
    intro key record found
    obtain ⟨rfl, rfl⟩ | old := get?_set_eq_some found
    · rfl
    · exact sound.named key record old
  components := by
    intro key present
    rw [keys_set, mem_insertNew] at present
    rcases present with old | rfl
    · exact sound.components key old
    · exact component
  unrepeated := by
    intro key record found
    obtain ⟨rfl, rfl⟩ | old := get?_set_eq_some found
    · exact ⟨List.nodup_nil, List.nodup_nil⟩
    · exact sound.unrepeated key record old
  justified := by
    rintro key parent ⟨record, found, lists⟩
    obtain ⟨rfl, rfl⟩ | old := get?_set_eq_some found
    · cases lists
    · obtain ⟨above, held, child⟩ := sound.justified key parent ⟨record, old, lists⟩
      have distinct : parent ≠ name := by
        rintro rfl
        exact absent (mem_keys_of_get? held)
      exact ⟨above, by rw [get?_set, if_neg distinct, held], child⟩

/-- A change of a record that adds children keeps a catalog sound. -/
theorem adjust (sound : catalog.Sound) (name : String) {change : Record → Record}
    (grows : ∀ record : Record, record.Grows (change record))
    (distinct : ∀ record, record.children.Nodup → (change record).children.Nodup)
    (parents : ∀ record, (change record).parents = record.parents) :
    (catalog.adjust name change).Sound where
  named := by
    intro key record found
    obtain ⟨old, before, rfl | rfl⟩ := get?_adjust_eq_some found
    · exact sound.named key old before
    · exact (grows old).name.trans (sound.named key old before)
  components := by
    rw [keys_adjust]
    exact sound.components
  unrepeated := by
    intro key record found
    obtain ⟨old, before, rfl | rfl⟩ := get?_adjust_eq_some found
    · exact sound.unrepeated key old before
    · obtain ⟨children, once⟩ := sound.unrepeated key old before
      exact ⟨distinct old children, parents old ▸ once⟩
  justified := by
    rintro key parent ⟨record, found, lists⟩
    have before : catalog.HasParent key parent := by
      obtain ⟨old, held, rfl | rfl⟩ := get?_adjust_eq_some found
      · exact ⟨old, held, lists⟩
      · exact ⟨old, held, parents old ▸ lists⟩
    obtain ⟨above, held, child⟩ := sound.justified key parent before
    obtain ⟨later, after, grown⟩ := exists_get?_adjust held name grows
    exact ⟨later, after, grown.children.subset child⟩

/-- A new component has no children, and one that is known keeps its own. -/
theorem register (sound : catalog.Sound) (name filePath : String) :
    (catalog.register name filePath).Sound := by
  rcases register_cases catalog name filePath with same | ⟨component, absent, fresh⟩ | moved
  · rwa [same]
  · rw [fresh]
    exact sound.set component absent filePath
  · rw [moved]
    exact sound.adjust name (fun record => .move record filePath) (fun _ once => once)
      fun _ => rfl

/-- Children that are added are kept without duplicates. -/
theorem extend (sound : catalog.Sound) (name : String) (children : List String) :
    (catalog.adjust name (·.addChildren children)).Sound :=
  sound.adjust name (fun record => .addChildren record children)
    (fun _ once => nodup_insertAll once children) fun _ => rfl

/-- Parents that are derived are those that the children have. -/
theorem deriveParents (sound : catalog.Sound) : catalog.deriveParents.Sound where
  named := sound.named.deriveParents
  components := by
    rw [keys_deriveParents]
    exact sound.components
  unrepeated := sound.unrepeated.deriveParents
  justified := sound.justified.deriveParents sound.named

/-- Every change keeps a catalog sound. -/
theorem perform (sound : catalog.Sound) (change : Change) : (catalog.perform change).2.Sound := by
  cases change with
  | register name filePath => exact sound.register name filePath
  | addChildren name children =>
    by_cases present : name ∈ catalog.keys
    · rw [perform_addChildren_of_mem present]
      exact sound.extend name children
    · rw [perform_addChildren_of_not_mem present]
      exact sound
  | merge findings =>
    exact merge_induction (fun _ name filePath sound => sound.register name filePath)
      (fun _ name children sound => sound.extend name children) sound findings
  | deriveParents => exact sound.deriveParents

/-- A catalog is sound after any changes. -/
theorem grown (changes : List Change) : (grown changes).Sound := by
  induction changes using List.reverseRecOn with
  | nil => exact .empty
  | append_singleton changes last ih =>
    rw [Catalog.grown, List.foldl_append]
    exact ih.perform last

end Sound

/-! ## Growing catalogs -/

/-- A catalog goes on from another one: the keys of that one come first, and every record of it
has grown. -/
structure Grows (before after : Catalog) : Prop where
  keys : before.keys <+: after.keys
  records : ∀ key record, before.get? key = some record →
    ∃ later, after.get? key = some later ∧ record.Grows later

namespace Grows

variable {catalog : Catalog}

/-- A graph that stays as it is has grown by nothing. -/
theorem refl (catalog : Catalog) : catalog.Grows catalog :=
  ⟨List.prefix_rfl, fun _ record found => ⟨record, found, .refl record⟩⟩

/-- Growing twice is growing. -/
theorem trans {first second third : Catalog} (early : first.Grows second)
    (late : second.Grows third) : first.Grows third where
  keys := early.keys.trans late.keys
  records := by
    intro key record found
    obtain ⟨between, later, grows⟩ := early.records key record found
    obtain ⟨last, latest, again⟩ := late.records key between later
    exact ⟨last, latest, grows.trans again⟩

/-- A new record goes to the end. -/
theorem set {name : String} (absent : name ∉ catalog.keys) (record : Record) :
    catalog.Grows (catalog.set name record) where
  keys := by
    rw [keys_set]
    exact prefix_insertAll catalog.keys [name]
  records := by
    intro key held found
    have distinct : key ≠ name := by
      rintro rfl
      exact absent (mem_keys_of_get? found)
    exact ⟨held, by rw [get?_set, if_neg distinct, found], .refl held⟩

/-- A record that grows where it stands makes the graph grow. -/
theorem adjust (catalog : Catalog) (name : String) {change : Record → Record}
    (grows : ∀ record : Record, record.Grows (change record)) :
    catalog.Grows (catalog.adjust name change) where
  keys := by simp only [keys_adjust, List.prefix_rfl]
  records _ _ found := exists_get?_adjust found name grows

/-- Registering adds a record or leaves all as they are. -/
theorem register (catalog : Catalog) (name filePath : String) :
    catalog.Grows (catalog.register name filePath) := by
  rcases register_cases catalog name filePath with same | ⟨_, absent, fresh⟩ | moved
  · rw [same]
    exact .refl catalog
  · rw [fresh]
    exact .set absent _
  · rw [moved]
    exact .adjust catalog name fun record => .move record filePath

/-- Adding children makes a record grow where it stands. -/
theorem extend (catalog : Catalog) (name : String) (children : List String) :
    catalog.Grows (catalog.adjust name (·.addChildren children)) :=
  .adjust catalog name fun record => .addChildren record children

/-- Deriving parents makes records grow where they stand. -/
theorem deriveParents (catalog : Catalog) : catalog.Grows catalog.deriveParents where
  keys := by simp only [keys_deriveParents, List.prefix_rfl]
  records := by
    intro key record found
    rw [get?_deriveParents, found]
    exact ⟨_, rfl, rfl, List.prefix_rfl, prefix_insertAll record.parents _⟩

/-- Under every change a catalog grows. -/
theorem perform (catalog : Catalog) (change : Change) :
    catalog.Grows (catalog.perform change).2 := by
  cases change with
  | register name filePath => exact .register catalog name filePath
  | addChildren name children =>
    by_cases present : name ∈ catalog.keys
    · rw [perform_addChildren_of_mem present]
      exact .extend catalog name children
    · rw [perform_addChildren_of_not_mem present]
      exact .refl catalog
  | merge findings =>
    exact merge_induction (motive := catalog.Grows)
      (fun _ name filePath grows => grows.trans (.register _ name filePath))
      (fun _ name children grows => grows.trans (.extend _ name children))
      (.refl catalog) findings
  | deriveParents => exact .deriveParents catalog

end Grows

/-- After any changes the records of a catalog stand under their names, which are component
names, repeat no neighbour, and list only parents that list them. Every further change makes
the catalog grow, so nothing is removed or moved. Adding children is refused exactly for a
name that is not held, and then nothing changes. Once parents are derived, children and
parents mirror each other.

The first law holds of every step. It is what the derivation of parents needs to close the
other side of each edge. -/
theorem grown_laws (changes : List Change) :
    (∀ key record, (grown changes).get? key = some record →
      record.name = key ∧ isName key = true ∧ record.children.Nodup ∧ record.parents.Nodup ∧
      ∀ parent ∈ record.parents, ∃ above, (grown changes).get? parent = some above ∧
        key ∈ above.children) ∧
    (∀ change, (grown changes).Grows ((grown changes).perform change).2) ∧
    (∀ name children,
      (name ∈ (grown changes).keys →
        ((grown changes).perform (.addChildren name children)).1 = none) ∧
      (name ∉ (grown changes).keys →
        (grown changes).perform (.addChildren name children) = (some ⟨name⟩, grown changes))) ∧
    (grown (changes ++ [.deriveParents])).Mirrored := by
  have sound := Sound.grown changes
  refine ⟨?_, .perform _, ?_, ?_⟩
  · intro key record found
    obtain ⟨children, parents⟩ := sound.unrepeated key record found
    refine ⟨sound.named key record found, sound.components key (mem_keys_of_get? found),
      children, parents, ?_⟩
    intro parent lists
    exact sound.justified key parent ⟨record, found, lists⟩
  · intro name children
    refine ⟨fun present => ?_, fun absent => perform_addChildren_of_not_mem absent children⟩
    rw [perform_addChildren_of_mem present]
  · rw [grown, List.foldl_append]
    exact sound.justified.mirrored_deriveParents sound.named

end Catalog

end ComponentAtlas.Component
