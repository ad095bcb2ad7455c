import ComponentAtlas.Component.Catalog

/-!
# Looking up keys

A row of values under different keys is known by its keys in order and by the value of each
key. For every operation on rows and on catalogs one law says what it does to the keys, and
one what it does to a look-up. Proofs about catalogs go through these two views and never
through the row itself.
-/

namespace ComponentAtlas.Keyed

variable {α : Type}

/-- Nothing is found in an empty row. -/
@[simp] theorem get?_nil (key : String) : get? ([] : Keyed α) key = none := rfl

/-- An empty row has no keys. -/
@[simp] theorem keys_nil : keys ([] : Keyed α) = [] := rfl

/-- The first key is that of the first pair. -/
@[simp] theorem keys_cons (head : String × α) (rest : Keyed α) :
    keys (head :: rest) = head.1 :: keys rest := rfl

/-- A look-up takes the first pair of its key. -/
theorem get?_cons (name key : String) (value : α) (rest : Keyed α) :
    get? ((name, value) :: rest) key = if key = name then some value else get? rest key := by
  by_cases same : key = name
  · simp [get?, same]
  · have unequal : (key == name) = false := by simp [same]
    simp [get?, List.lookup_cons, unequal, same]

/-- Of two rows one after the other, a look-up takes the first that has the key. -/
theorem get?_append (front back : Keyed α) (key : String) :
    get? (front ++ back) key = (get? front key).or (get? back key) := List.lookup_append

/-- A key has a value exactly if it is present. -/
theorem isSome_get? (row : Keyed α) (key : String) :
    (row.get? key).isSome = true ↔ key ∈ row.keys := by
  induction row with
  | nil => simp
  | cons head rest ih =>
    obtain ⟨name, value⟩ := head
    rw [get?_cons]
    by_cases same : key = name
    · simp [same]
    · simp [same, ih]

/-- A key has no value exactly if it is absent. -/
theorem get?_eq_none_iff {row : Keyed α} {key : String} : row.get? key = none ↔ key ∉ row.keys := by
  rw [← isSome_get?, Option.not_isSome_iff_eq_none]

/-- After a key is set, it has the value, and every other key has what it had. -/
theorem get?_set (row : Keyed α) (key other : String) (value : α) :
    (row.set key value).get? other = if other = key then some value else row.get? other := by
  induction row with
  | nil => simp [set, get?_cons]
  | cons head rest ih =>
    obtain ⟨name, old⟩ := head
    by_cases same : name = key
    · subst same
      by_cases asked : other = name <;> simp [set, get?_cons, asked]
    · have unequal : (name == key) = false := by simp [same]
      simp only [set, unequal, Bool.false_eq_true, ↓reduceIte, get?_cons, ih]
      by_cases asked : other = name
      · subst asked
        simp [same]
      · simp [asked]

/-- After the value of a key is changed, the key has the changed value, if it had one. -/
theorem get?_adjust (row : Keyed α) (key other : String) (change : α → α) :
    (row.adjust key change).get? other =
      if other = key then (row.get? other).map change else row.get? other := by
  induction row with
  | nil => simp [adjust]
  | cons head rest ih =>
    obtain ⟨name, old⟩ := head
    have step : adjust ((name, old) :: rest) key change =
        (name, if name = key then change old else old) :: adjust rest key change := by
      by_cases same : name = key <;> simp [adjust, same]
    rw [step, get?_cons, get?_cons, ih]
    by_cases asked : other = name
    · subst asked
      by_cases same : other = key <;> simp [same]
    · simp [asked]

/-- A change of all values changes what look-ups give. -/
theorem get?_map (row : Keyed α) (change : α → α) (key : String) :
    get? (row.map fun pair => (pair.1, change pair.2)) key = (row.get? key).map change := by
  induction row with
  | nil => simp
  | cons head rest ih =>
    obtain ⟨name, old⟩ := head
    rw [List.map_cons, get?_cons, get?_cons, ih]
    by_cases asked : key = name <;> simp [asked]

/-- What a look-up finds is in the row. -/
theorem mem_of_get? {row : Keyed α} {key : String} {value : α} (found : row.get? key = some value) :
    (key, value) ∈ row := by
  obtain ⟨before, after, rfl, -⟩ := List.lookup_eq_some_iff.mp found
  exact List.mem_append_right before List.mem_cons_self

/-- Where keys differ, the pairs of a row are its look-ups. -/
theorem mem_iff_get? {row : Keyed α} (distinct : row.keys.Nodup) (key : String) (value : α) :
    (key, value) ∈ row ↔ row.get? key = some value := by
  induction row with
  | nil => simp
  | cons head rest ih =>
    obtain ⟨name, old⟩ := head
    obtain ⟨absent, later⟩ := List.nodup_cons.mp distinct
    rw [get?_cons, List.mem_cons, ih later]
    by_cases same : key = name
    · subst same
      have unset : get? rest key = none := get?_eq_none_iff.mpr absent
      simp [unset, eq_comm]
    · simp [same]

/-- Where keys differ, a look-up among the kept pairs gives the value if its pair is kept. -/
theorem get?_filter {row : Keyed α} (distinct : row.keys.Nodup) (keep : α → Bool)
    (key : String) : get? (row.filter (keep ·.2)) key = (row.get? key).filter keep := by
  have kept : keys (row.filter (keep ·.2)) |>.Nodup := nodup_keys_filter distinct _
  apply Option.ext
  intro value
  rw [← mem_iff_get? kept, List.mem_filter, mem_iff_get? distinct, Option.filter_eq_some_iff]

/-- Rows are equal if they have the same keys in the same order, all different, and the same
value under each. -/
theorem ext_get? {left right : Keyed α} (distinct : left.keys.Nodup)
    (ordered : left.keys = right.keys) (same : ∀ key, left.get? key = right.get? key) :
    left = right := by
  induction left generalizing right with
  | nil => exact (List.map_eq_nil_iff.mp ordered.symm).symm
  | cons head rest ih =>
    cases right with
    | nil => simp at ordered
    | cons other tail =>
      obtain ⟨name, value⟩ := head
      obtain ⟨_, found⟩ := other
      obtain ⟨rfl, below⟩ := List.cons_eq_cons.mp ordered
      obtain ⟨absent, later⟩ := List.nodup_cons.mp distinct
      have equal : value = found := by simpa [get?_cons] using same name
      have rests : ∀ key, get? rest key = get? tail key := by
        intro key
        by_cases first : key = name
        · subst first
          have here : get? rest key = none := get?_eq_none_iff.mpr absent
          have there : get? tail key = none := by
            rw [get?_eq_none_iff, ← show keys rest = keys tail from below]
            exact absent
          rw [here, there]
        · simpa [get?_cons, first] using same key
      rw [equal, ih later below rests]

end ComponentAtlas.Keyed

namespace ComponentAtlas.Component.Catalog

variable {catalog : Catalog}

/-- A key is present exactly if a look-up finds a record. -/
theorem isSome_get? (catalog : Catalog) (key : String) :
    (catalog.get? key).isSome = true ↔ key ∈ catalog.keys := Keyed.isSome_get? _ key

/-- Every key of a catalog has a record. -/
theorem exists_get? {key : String} (present : key ∈ catalog.keys) :
    ∃ record, catalog.get? key = some record :=
  Option.isSome_iff_exists.mp ((isSome_get? catalog key).mpr present)

/-- The test for a key says whether it is among the keys. -/
theorem has_iff {key : String} : catalog.has key = true ↔ key ∈ catalog.keys := by
  simp [has]

/-- The records of a catalog are what look-ups find. -/
theorem mem_records_iff {record : Record} :
    record ∈ catalog.records ↔ ∃ key, catalog.get? key = some record := by
  simp only [records, List.mem_map, Prod.exists, exists_eq_right]
  exact exists_congr fun key => Keyed.mem_iff_get? catalog.distinct key record

/-- A record set under a key is found there, and every other look-up gives what it gave. -/
theorem get?_set (catalog : Catalog) (key other : String) (record : Record) :
    (catalog.set key record).get? other =
      if other = key then some record else catalog.get? other := Keyed.get?_set _ key other record

/-- Setting a key inserts it among the keys. -/
theorem keys_set (catalog : Catalog) (key : String) (record : Record) :
    (catalog.set key record).keys = insertNew catalog.keys key := by
  have law := Keyed.keys_set catalog.entries key record
  by_cases present : key ∈ catalog.keys
  · have held : catalog.keys.contains key = true := by simp [present]
    rw [insertNew, if_pos held]
    exact law.trans (if_pos present)
  · have fresh : ¬ catalog.keys.contains key = true := by simp [present]
    rw [insertNew, if_neg fresh]
    exact law.trans (if_neg present)

/-- Changing a record changes what is found under its key and nothing else. -/
theorem get?_adjust (catalog : Catalog) (key other : String) (change : Record → Record) :
    (catalog.adjust key change).get? other =
      if other = key then (catalog.get? other).map change else catalog.get? other :=
  Keyed.get?_adjust _ key other change

/-- Changing a record leaves the keys alone. -/
@[simp] theorem keys_adjust (catalog : Catalog) (key : String) (change : Record → Record) :
    (catalog.adjust key change).keys = catalog.keys := Keyed.keys_adjust _ key change

/-- Among the records that pass a test a look-up finds what it found, if that passes. -/
theorem get?_filter (catalog : Catalog) (keep : Record → Bool) (key : String) :
    (catalog.filter keep).get? key = (catalog.get? key).filter keep :=
  Keyed.get?_filter catalog.distinct keep key

/-- A change of all records changes what look-ups find. -/
theorem get?_map (catalog : Catalog) (change : Record → Record) (key : String) :
    (catalog.map change).get? key = (catalog.get? key).map change := Keyed.get?_map _ change key

/-- So does changing all records. -/
@[simp] theorem keys_map (catalog : Catalog) (change : Record → Record) :
    (catalog.map change).keys = catalog.keys := by
  simp [keys, map, Keyed.keys]

/-- Catalogs are equal if they have the same keys in order and the same record under each. -/
theorem ext_get? {left right : Catalog} (ordered : left.keys = right.keys)
    (same : ∀ key, left.get? key = right.get? key) : left = right :=
  ext_entries (Keyed.ext_get? left.distinct ordered same)

end ComponentAtlas.Component.Catalog
