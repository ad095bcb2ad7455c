import ComponentAtlas.Config.Storage
import ComponentAtlas.Proofs.Validation

/-!
# Layers, field by field

The defaults, a stored object and the values of a command line lie over one another, and what
comes of them is validated. Each layer is laid key by key and validation goes field by field, so
what a field holds in the end is settled by the topmost layer that says something of it: it is
what validation makes of that value alone. Nothing else that any layer holds has a part in it.
-/

namespace ComponentAtlas.Config

variable {cwd : String} {mode : Mode}

/-! ## Validation of a field -/

/-- Where a check gives values for equal inputs, the same is stored for them. -/
theorem Checked.Gives.stored_eq {α : Type} {check : Json → Checked α} {given other : Json}
    {first second : α} (one : (check given).Gives first) (two : (check other).Gives second)
    (same : given = other) (store : α → Json) : some (store first) = some (store second) := by
  subst same
  rw [one.unique two]

/-- Configurations that are made of one value under a key hold the same under that key, whatever
else they are made of. -/
theorem MadeOf.get?_congr {config other : Config} {value change : String → Json}
    (one : config.MadeOf cwd mode value) (two : other.MadeOf cwd mode change) {key : String}
    (known : key ∈ knownKeys) (same : value key = change key) :
    config.toFields.get? key = other.toFields.get? key := by
  have cases : key = "input_path" ∨ key = "base_path" ∨ key = "include_path" ∨
      key = "extensions" ∨ key = "exclude_patterns" ∨ key = "include_nested_definitions" ∨
      key = "ref_forwarding_wrappers" ∨ key = "framework_namespaces" ∨
      key = "component_base_classes" ∨ key = "max_workers" := by
    simpa [knownKeys, toFields] using known
  rcases cases with rfl | rfl | rfl | rfl | rfl | rfl | rfl | rfl | rfl | rfl
  · exact one.inputPath.stored_eq two.inputPath same .str
  · exact one.basePath.stored_eq two.basePath same .str
  · exact one.includePath.stored_eq two.includePath same .str
  · exact one.extensions.stored_eq two.extensions same .ofStrings
  · exact one.excludePatterns.stored_eq two.excludePatterns same .ofStrings
  · exact one.includeNested.stored_eq two.includeNested same .bool
  · exact one.refForwardingWrappers.stored_eq two.refForwardingWrappers same .ofStrings
  · exact one.frameworkNamespaces.stored_eq two.frameworkNamespaces same .ofStrings
  · exact one.componentBaseClasses.stored_eq two.componentBaseClasses same .ofStrings
  · exact one.maxWorkers.stored_eq two.maxWorkers same fun count => .int count

/-- What is validated under a key depends on what is given under it, and on nothing else. -/
theorem get?_validated_congr {fields other : Json.Fields} {key : String} (known : key ∈ knownKeys)
    (same : given (standard cwd) fields key = given (standard cwd) other key) :
    (validated cwd (.object fields)).1.toFields.get? key =
      (validated cwd (.object other)).1.toFields.get? key :=
  (madeOf_validated cwd fields).get?_congr (madeOf_validated cwd other) known same

/-! ## Layers over layers -/

/-- A value that is given for a key lies over the one that is there, if the key can be reached. -/
theorem get?_merge (base overrides : Json.Fields) (key : String) :
    (merge base overrides).get? key =
      (if key ∈ overridableKeys then (overrides.get? key).filter isGiven else none).or
        (base.get? key) := by
  rw [merge]
  generalize overridableKeys = names
  induction names generalizing base with
  | nil => simp
  | cons name rest ih =>
    rw [List.foldl_cons, ih]
    by_cases asked : key = name
    · subst asked
      cases found : overrides.get? key with
      | none => simp
      | some value =>
        -- The key may come once more, and is then set to the same value.
        cases usable : isGiven value <;>
          by_cases again : key ∈ rest <;> simp [Option.filter, usable, again, Keyed.get?_set]
    · cases overrides.get? name with
      | none => simp [asked]
      | some value => cases usable : isGiven value <;> simp [asked, usable, Keyed.get?_set]

/-- A stored object lies over the defaults. -/
theorem get?_stored (defaults : Json.Fields) {file : Json.Fields} (distinct : file.keys.Nodup)
    {key : String} (other : key ≠ "version") :
    (stored defaults file).get? key = (file.get? key).or (defaults.get? key) := by
  rw [stored, Keyed.get?_update _ (Keyed.nodup_keys_erase distinct _), Keyed.get?_erase,
    if_neg other]

/-- The fields under those of a command line: the defaults, under a stored object if there is
one. -/
def underlying (cwd : String) : Option Json.Fields → Json.Fields
  | none => (standard cwd).toFields
  | some file => stored (standard cwd).toFields file

/-- Where loading does not crash, it gives the fields under those of a command line. -/
theorem eq_underlying_of_load {disk : Disk} {path : String} {fields : Json.Fields}
    {entries : List Log.Entry} (loaded : load disk path = .ok (fields, entries)) :
    ∃ read, readStored disk path = .ok read ∧ fields = underlying disk.cwd read.toOption := by
  obtain ⟨read, found, given⟩ := Json.exists_of_bind_eq_ok loaded
  refine ⟨read, found, ?_⟩
  cases read with
  | error fault =>
    cases given
    rfl
  | ok file =>
    obtain ⟨remarks, -, same⟩ := Json.exists_of_bind_eq_ok given
    cases same
    rfl

/-- The configuration that all layers together come to. -/
def effective (cwd : String) (file : Option Json.Fields) (overrides : Json.Fields) : Config :=
  (validated cwd (.object (merge (underlying cwd file) overrides))).1

/-- What the topmost layer over the defaults says of a key, if one does. -/
def topmost (file : Option Json.Fields) (overrides : Json.Fields) (key : String) : Option Json :=
  (if key ∈ overridableKeys then (overrides.get? key).filter isGiven else none).or
    (file.bind (·.get? key))

/-- Fields that hold a value under one key, or nothing. -/
def alone (key : String) (value : Option Json) : Json.Fields :=
  value.toList.map fun found => (key, found)

/-- Of a known key that is given which the topmost layer gives, with the defaults under all. -/
theorem given_layers (cwd : String) {file : Option Json.Fields}
    (distinct : ∀ fields ∈ file, fields.keys.Nodup) (overrides : Json.Fields) {key : String}
    (known : key ∈ knownKeys) :
    given (standard cwd) (merge (underlying cwd file) overrides) key =
      ((topmost file overrides key).or ((standard cwd).toFields.get? key)).getD .null := by
  have other : key ≠ "version" := by
    rintro rfl
    exact absurd known (by decide)
  have below : (underlying cwd file).get? key =
      (file.bind (·.get? key)).or ((standard cwd).toFields.get? key) := by
    cases file with
    | none => rfl
    | some fields => exact get?_stored _ (distinct fields rfl) other
  rw [given, get?_merge, below, topmost]
  simp only [Option.or_assoc, Option.or_self]

/-- A value that is given alone is given as it stands. -/
theorem given_alone (defaults : Config) (key : String) (value : Option Json) :
    given defaults (alone key value) key =
      (value.or (defaults.toFields.get? key)).getD .null := by
  cases value with
  | none => rfl
  | some found => simp [given, alone, Keyed.get?_cons]

/-! ## The decomposition -/

section

variable {file other : Option Json.Fields} (distinct : ∀ fields ∈ file, fields.keys.Nodup)
  (apart : ∀ fields ∈ other, fields.keys.Nodup) {overrides change : Json.Fields}

include distinct

/-- Under a known key all layers come to what the topmost of them comes to alone. -/
theorem get?_effective (overrides : Json.Fields) {key : String} (known : key ∈ knownKeys) :
    (effective cwd file overrides).toFields.get? key =
      (validated cwd (.object (alone key (topmost file overrides key)))).1.toFields.get? key := by
  refine get?_validated_congr known ?_
  rw [given_layers cwd distinct overrides known, given_alone]

include apart

/-- Layers that say the same of a key in the end come to the same under it. -/
theorem get?_effective_congr {key : String} (known : key ∈ knownKeys)
    (same : topmost file overrides key = topmost other change key) :
    (effective cwd file overrides).toFields.get? key =
      (effective cwd other change).toFields.get? key := by
  rw [get?_effective distinct overrides known, get?_effective apart change known, same]

/-- Layers that say the same of every known key in the end come to the same. -/
theorem toFields_effective_congr
    (same : ∀ key ∈ knownKeys, topmost file overrides key = topmost other change key) :
    (effective cwd file overrides).toFields = (effective cwd other change).toFields := by
  refine congrArg toFields (ext_knownKeys fun key known => ?_)
  exact get?_effective_congr distinct apart known (same key known)

end

/-- The configuration that a stored object and a command line come to is made field by field.
The checks do not refuse them. Every field is what validation makes of the topmost value for
its key alone: the one of the command line, if the key can be reached from there and a value is
given, or else the one of the stored object, or else none. So the command line does not touch
the names of frameworks, unknown keys of the stored object make no difference, and no field
depends on what the layers hold for another. The configuration is also what validation gives, unless
the topmost number of workers neither fits nor can be shown.

A look-up in layers takes the topmost value, and validation takes nothing but that look-up. -/
theorem layers_decompose (cwd : String) {file : Option Json.Fields}
    (distinct : ∀ fields ∈ file, fields.keys.Nodup) (overrides : Json.Fields) :
    (validate cwd .lenient (.object (merge (underlying cwd file) overrides))).Gives
      (effective cwd file overrides) ∧
    (∀ key ∈ knownKeys, (effective cwd file overrides).toFields.get? key =
      (validated cwd (.object (alone key (topmost file overrides key)))).1.toFields.get? key) ∧
    (∀ change : Json.Fields,
      ∀ key ∈ ["ref_forwarding_wrappers", "framework_namespaces", "component_base_classes"],
      (effective cwd file change).toFields.get? key =
        (effective cwd file overrides).toFields.get? key) ∧
    (∀ other : Option Json.Fields, (∀ fields ∈ other, fields.keys.Nodup) →
      (∀ key ∈ knownKeys, other.bind (·.get? key) = file.bind (·.get? key)) →
      (effective cwd other overrides).toFields = (effective cwd file overrides).toFields) ∧
    (∀ (other : Option Json.Fields) (change : Json.Fields),
      (∀ fields ∈ other, fields.keys.Nodup) → ∀ key ∈ knownKeys,
      topmost other change key = topmost file overrides key →
      (effective cwd other change).toFields.get? key =
        (effective cwd file overrides).toFields.get? key) ∧
    ((∀ value ∈ topmost file overrides "max_workers", ¬ UnspeakableCount value) →
      ∃ messages, review cwd .lenient (.object (merge (underlying cwd file) overrides)) =
        .ok (effective cwd file overrides, messages)) := by
  refine ⟨gives_validated cwd (.object _), fun key => get?_effective distinct overrides, ?_, ?_, ?_,
    ?_⟩
  · intro change key listed
    have beyond : key ∈ knownKeys ∧ key ∉ overridableKeys := by
      revert key
      decide
    refine get?_effective_congr distinct distinct beyond.1 ?_
    simp only [topmost, if_neg beyond.2]
  · intro other apart agree
    refine toFields_effective_congr apart distinct fun key known => ?_
    rw [topmost, topmost, agree key known]
  · intro other change apart key known same
    exact get?_effective_congr apart distinct known same
  · intro speakable
    refine exists_review_lenient cwd fun unspeakable => ?_
    have count := (unspeakableCount_given_iff cwd).mpr unspeakable
    rw [given_layers cwd distinct overrides (by decide)] at count
    cases top : topmost file overrides "max_workers" with
    | none =>
      rw [top] at count
      exact absurd (count.2 1 rfl) (by decide)
    | some value =>
      rw [top] at count
      exact speakable value top count

/-- A stored object with an unknown key, under a command line that gives no number of workers
and reaches for the names of frameworks. -/
theorem layers_decompose_mixed :
    let file : Json.Fields := [("version", .str "0.9"), ("mystery", .null),
      ("max_workers", .int 4), ("framework_namespaces", .list [.str " Vue "])]
    let overrides : Json.Fields := [("max_workers", .null), ("base_path", .str ""),
      ("framework_namespaces", .list [.str "Solid"])]
    file.keys.Nodup ∧
    (effective "/srv" (some file) overrides).maxWorkers = 4 ∧
    (effective "/srv" (some file) overrides).frameworkNamespaces = ["Vue"] ∧
    (effective "/srv" (some file) overrides).toFields.get? "max_workers" =
      (validated "/srv" (.object [("max_workers", .int 4)])).1.toFields.get? "max_workers" := by
  intro file overrides
  have distinct : file.keys.Nodup := by decide
  refine ⟨distinct, by decide +kernel, by decide +kernel, ?_⟩
  refine (layers_decompose "/srv" ?_ overrides).2.1 "max_workers" (by decide)
  rintro _ ⟨⟩
  exact distinct

end ComponentAtlas.Config
