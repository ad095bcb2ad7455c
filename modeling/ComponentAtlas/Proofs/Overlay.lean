import ComponentAtlas.Proofs.Lookup

/-!
# Rows over rows

Setting the pairs of one row in another in turn lays the one over the other. A key then has the
value from above, and the value from below only if there is none above. Keys from below keep
their places and new ones follow in order, so a row over its own keys is that row, and a row
over other keys comes after them.
-/

namespace ComponentAtlas.Keyed

variable {α : Type}

/-- Where keys differ, look-ups do not see the order of pairs. -/
theorem get?_perm {row other : Keyed α} (same : row.Perm other) (distinct : other.keys.Nodup)
    (key : String) : row.get? key = other.get? key := by
  have apart : row.keys.Nodup := (same.map Prod.fst).nodup_iff.mpr distinct
  apply Option.ext
  intro value
  rw [← mem_iff_get? apart, ← mem_iff_get? distinct, same.mem_iff]

/-- A key that is taken out has no value, and every other key has what it had. -/
theorem get?_erase (row : Keyed α) (name key : String) :
    (row.erase name).get? key = if key = name then none else row.get? key := by
  induction row with
  | nil => simp [erase]
  | cons head rest ih =>
    obtain ⟨other, value⟩ := head
    rw [get?_cons]
    by_cases dropped : other = name
    · have step : erase ((other, value) :: rest) name = erase rest name := by simp [erase, dropped]
      rw [step, ih, ← dropped]
      by_cases asked : key = other <;> simp [asked]
    · have step : erase ((other, value) :: rest) name = (other, value) :: erase rest name := by
        simp [erase, dropped]
      rw [step, get?_cons, ih]
      by_cases asked : key = other
      · simp [asked, dropped]
      · simp [asked]

/-- A key that is not there cannot be taken out. -/
theorem erase_eq_self {row : Keyed α} {name : String} (absent : name ∉ row.keys) :
    row.erase name = row := by
  rw [erase, List.filter_eq_self]
  intro pair present
  have other : pair.1 ≠ name := fun same => absent (same ▸ List.mem_map_of_mem present)
  simpa using other

/-- Keys that differ stay different when one is taken out. -/
theorem nodup_keys_erase {row : Keyed α} (distinct : row.keys.Nodup) (name : String) :
    (row.erase name).keys.Nodup := nodup_keys_filter distinct _

/-- A key has the value from above, or else the one from below. -/
theorem get?_update (row : Keyed α) {overlay : Keyed α} (distinct : overlay.keys.Nodup)
    (key : String) : (row.update overlay).get? key = (overlay.get? key).or (row.get? key) := by
  induction overlay generalizing row with
  | nil => rfl
  | cons head rest ih =>
    obtain ⟨name, value⟩ := head
    obtain ⟨absent, later⟩ := List.nodup_cons.mp distinct
    have step : row.update ((name, value) :: rest) = (row.set name value).update rest := rfl
    rw [step, ih _ later, get?_set, get?_cons]
    by_cases asked : key = name
    · have none : get? rest key = none := get?_eq_none_iff.mpr (asked ▸ absent)
      simp [asked, asked ▸ none]
    · simp [asked]

/-- Rows that bring no new key leave the keys alone. -/
theorem keys_update {row overlay : Keyed α} (known : overlay.keys ⊆ row.keys) :
    (row.update overlay).keys = row.keys := by
  induction overlay generalizing row with
  | nil => rfl
  | cons head rest ih =>
    obtain ⟨name, value⟩ := head
    obtain ⟨present, later⟩ := List.cons_subset.mp known
    have kept : (row.set name value).keys = row.keys := by rw [keys_set, if_pos present]
    have step : row.update ((name, value) :: rest) = (row.set name value).update rest := rfl
    rw [step, ih (kept.symm ▸ later), kept]

/-- A row that is laid over its own keys covers what was there. -/
theorem update_of_keys_eq {row overlay : Keyed α} (same : overlay.keys = row.keys)
    (distinct : overlay.keys.Nodup) : row.update overlay = overlay := by
  have keys : (row.update overlay).keys = overlay.keys := by
    rw [keys_update (same ▸ List.Subset.refl _), same]
  refine ext_get? (keys ▸ distinct) keys fun key => ?_
  rw [get?_update row distinct]
  cases found : overlay.get? key with
  | some value => rfl
  | none =>
    have absent : key ∉ row.keys := same ▸ get?_eq_none_iff.mp found
    simpa using get?_eq_none_iff.mpr absent

/-- A new key goes to the end. -/
theorem set_of_not_mem {row : Keyed α} {name : String} (absent : name ∉ row.keys) (value : α) :
    row.set name value = row ++ [(name, value)] := by
  induction row with
  | nil => rfl
  | cons first rest ih =>
    obtain ⟨other, old⟩ := first
    have unequal : (other == name) = false := by
      have different : ¬ name = other := fun same => absent (by simp [same])
      simpa using Ne.symm different
    have later : name ∉ keys rest := fun present => absent (List.mem_cons_of_mem _ present)
    simp [set, unequal, ih later]

/-- A row that is laid over other keys comes after them. -/
theorem update_of_disjoint {row overlay : Keyed α} (distinct : (keys (row ++ overlay)).Nodup) :
    row.update overlay = row ++ overlay := by
  induction overlay generalizing row with
  | nil => simp [update]
  | cons head rest ih =>
    obtain ⟨name, value⟩ := head
    have absent : name ∉ row.keys := by
      intro present
      simp only [keys, List.map_append, List.map_cons, List.nodup_append] at distinct
      exact distinct.2.2 name present name (by simp) rfl
    have step : row.update ((name, value) :: rest) = (row.set name value).update rest := rfl
    rw [step, set_of_not_mem absent, ih (by simpa using distinct)]
    simp

/-- Pairs under different keys are a row as they stand. -/
theorem ofPairs_eq_self {pairs : List (String × α)} (distinct : (keys pairs).Nodup) :
    ofPairs pairs = pairs := by
  have whole : update [] pairs = [] ++ pairs := update_of_disjoint distinct
  exact whole

/-- What is in a row after a key was set was there before, or was set. -/
theorem mem_of_mem_set {row : Keyed α} {key : String} {value : α} {pair : String × α}
    (present : pair ∈ row.set key value) : pair ∈ row ∨ pair = (key, value) := by
  induction row with
  | nil => exact .inr (List.mem_singleton.mp present)
  | cons head rest ih =>
    simp only [set, beq_iff_eq] at present
    split at present
    case isTrue same =>
      rcases List.mem_cons.mp present with new | later
      · exact .inr (same ▸ new)
      · exact .inl (List.mem_cons_of_mem _ later)
    case isFalse =>
      rcases List.mem_cons.mp present with rfl | later
      · exact .inl List.mem_cons_self
      · exact (ih later).imp_left (List.mem_cons_of_mem _)

/-- What is in a row over another one comes from either of them. -/
theorem mem_of_mem_update {row overlay : Keyed α} {pair : String × α}
    (present : pair ∈ row.update overlay) : pair ∈ row ∨ pair ∈ overlay := by
  induction overlay generalizing row with
  | nil => exact .inl present
  | cons head rest ih =>
    have step : row.update (head :: rest) = (row.set head.1 head.2).update rest := rfl
    rw [step] at present
    rcases ih present with early | late
    · rcases mem_of_mem_set early with old | rfl
      · exact .inl old
      · exact .inr List.mem_cons_self
    · exact .inr (List.mem_cons_of_mem _ late)

/-- What is in a row that is made of pairs is one of them. -/
theorem mem_of_mem_ofPairs {pairs : List (String × α)} {pair : String × α}
    (present : pair ∈ ofPairs pairs) : pair ∈ pairs :=
  (mem_of_mem_update present).resolve_left List.not_mem_nil

end ComponentAtlas.Keyed
