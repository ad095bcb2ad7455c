import ComponentAtlas.Component.Record

/-!
# Catalogs of components

A catalog holds records under keys that all differ, in the order in which the keys came. Each
operation says what becomes of the entries; that keys stay different is part of the type.
-/

namespace ComponentAtlas.Component

/-- Records under different keys. -/
structure Catalog where
  entries : Keyed Record
  distinct : entries.keys.Nodup
  deriving Repr

namespace Catalog

/-- The catalog without entries. -/
def empty : Catalog := ⟨[], List.nodup_nil⟩

/-- The keys in order. -/
def keys (catalog : Catalog) : List String := catalog.entries.keys

/-- The records in order. -/
def records (catalog : Catalog) : List Record := catalog.entries.map (·.2)

/-- The number of entries. -/
def size (catalog : Catalog) : Nat := catalog.entries.length

/-- The record of a key. -/
def get? (catalog : Catalog) (key : String) : Option Record := catalog.entries.get? key

/-- The key is present. -/
def has (catalog : Catalog) (key : String) : Bool := catalog.keys.contains key

/-- Puts a record under a key: in the place of an earlier one, or at the end. -/
def set (catalog : Catalog) (key : String) (record : Record) : Catalog :=
  ⟨catalog.entries.set key record, Keyed.nodup_keys_set catalog.distinct key record⟩

/-- Changes the record of a key, if there is one. -/
def adjust (catalog : Catalog) (key : String) (change : Record → Record) : Catalog :=
  ⟨catalog.entries.adjust key change, by
    rw [Keyed.keys_adjust]; exact catalog.distinct⟩

/-- The entries that pass a test. -/
def filter (catalog : Catalog) (keep : Record → Bool) : Catalog :=
  ⟨catalog.entries.filter (keep ·.2), Keyed.nodup_keys_filter catalog.distinct _⟩

/-- Changes every record. -/
def map (catalog : Catalog) (change : Record → Record) : Catalog :=
  ⟨catalog.entries.map fun (key, record) => (key, change record), by
    have same : Keyed.keys (catalog.entries.map fun (key, record) => (key, change record)) =
        catalog.entries.keys := by simp [Keyed.keys]
    rw [same]; exact catalog.distinct⟩

/-- The records under their keys, where a later record replaces an earlier one. -/
def ofPairs (pairs : List (String × Record)) : Catalog :=
  pairs.foldl (fun catalog (key, record) => catalog.set key record) empty

/-- A catalog is its entries. -/
theorem ext_entries {a b : Catalog} (same : a.entries = b.entries) : a = b := by
  cases a; cases b; cases same; rfl

/-- What a look-up finds stands under a key of the catalog. -/
theorem mem_keys_of_get? {catalog : Catalog} {key : String} {record : Record}
    (found : catalog.get? key = some record) : key ∈ catalog.keys := by
  obtain ⟨before, after, split, _⟩ := List.lookup_eq_some_iff.1 found
  exact List.mem_map.2 ⟨(key, record), by simp [split], rfl⟩

end Catalog

end ComponentAtlas.Component
