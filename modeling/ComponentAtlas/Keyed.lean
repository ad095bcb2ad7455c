/-!
# Values by key, in order

A row of values, each under a key. Setting a key that is present replaces its value where it
stands; a new key goes to the end. So the order is that in which keys first came, and keys
that differ stay different.
-/

namespace ComponentAtlas

/-- Keys with their values, in order. -/
abbrev Keyed (α : Type) := List (String × α)

namespace Keyed

variable {α : Type}

/-- The value of a key. -/
def get? (row : Keyed α) (key : String) : Option α := row.lookup key

/-- The key is present. -/
def has (row : Keyed α) (key : String) : Bool := (row.get? key).isSome

/-- The keys in order. -/
def keys (row : Keyed α) : List String := row.map (·.1)

/-- Gives a key a value: where it stands if it is present, else at the end. -/
def set : Keyed α → String → α → Keyed α
  | [], key, value => [(key, value)]
  | (k, v) :: rest, key, value =>
    if k == key then (k, value) :: rest else (k, v) :: set rest key value

/-- Changes the value of a key, if it is present. -/
def adjust (row : Keyed α) (key : String) (change : α → α) : Keyed α :=
  row.map fun (k, v) => if k == key then (k, change v) else (k, v)

/-- Sets all keys of `overlay` in turn. -/
def update (row overlay : Keyed α) : Keyed α :=
  overlay.foldl (fun acc (key, value) => acc.set key value) row

/-- What stands under other keys. -/
def erase (row : Keyed α) (key : String) : Keyed α := row.filter (·.1 != key)

/-- The pairs in order, where a later value of a key replaces an earlier one. -/
def ofPairs (pairs : List (String × α)) : Keyed α := update [] pairs

/-- Setting a key keeps the keys and their order, and puts a new one at the end. -/
theorem keys_set (row : Keyed α) (key : String) (value : α) :
    (row.set key value).keys = if key ∈ row.keys then row.keys else row.keys ++ [key] := by
  induction row with
  | nil => simp [set, keys]
  | cons head rest ih =>
    obtain ⟨k, v⟩ := head
    by_cases same : k = key
    · simp [set, keys, same]
    · have unequal : (k == key) = false := by simp [same]
      have other : ¬ key = k := fun h => same h.symm
      simp only [keys] at ih
      by_cases later : key ∈ rest.map (·.1) <;>
        simp [set, keys, unequal, other, later, ih] at *

/-- Changing a value leaves the keys alone. -/
@[simp] theorem keys_adjust (row : Keyed α) (key : String) (change : α → α) :
    (row.adjust key change).keys = row.keys := by
  induction row with
  | nil => rfl
  | cons head rest ih =>
    simp only [adjust, keys, List.map_cons, List.map_map] at ih ⊢
    rw [ih]
    by_cases same : head.1 == key <;> simp [same]

/-- Keys that differ stay different when one is set. -/
theorem nodup_keys_set {row : Keyed α} (distinct : row.keys.Nodup) (key : String) (value : α) :
    (row.set key value).keys.Nodup := by
  rw [keys_set]
  split
  case isTrue => exact distinct
  case isFalse absent =>
    rw [List.nodup_append]
    refine ⟨distinct, by simp, ?_⟩
    intro a old b new equal
    have same : b = key := by simpa using new
    exact absent (same ▸ equal ▸ old)

/-- Keys that differ stay different when some are dropped. -/
theorem nodup_keys_filter {row : Keyed α} (distinct : row.keys.Nodup)
    (keep : String × α → Bool) : (keys (row.filter keep)).Nodup :=
  List.Sublist.nodup (List.Sublist.map _ List.filter_sublist) distinct

end Keyed

end ComponentAtlas
