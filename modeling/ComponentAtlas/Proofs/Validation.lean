import ComponentAtlas.Proofs.Wording
import ComponentAtlas.Proofs.Overlay
import ComponentAtlas.Scan.Report

/-!
# Validation, field by field

Validation checks the ten known fields in turn. What it makes of a field is decided by the value
under the key of that field, or by its default, and by nothing else; only the order of warnings
and the choice of the first misfit depend on how the fields follow one another. So there is one
law for whole configurations, `gives_validateFields_iff`, and the rest is said of single checks.

A configuration is well-formed when every field holds what the program expects of it. The lenient
checks make a well-formed configuration of every value whatever, as long as the working directory
can be an input path itself. Only where a warning cannot be put into words is it not given. And a
well-formed configuration is given back as it is, without a warning and in both modes; so
validating twice is validating once.
-/

namespace ComponentAtlas.Config

open Text (Bare)

variable {mode : Mode}

/-! ## Whole configurations -/

/-- Each field of the configuration is what its check gives for the value under its key. -/
structure MadeOf (config : Config) (cwd : String) (mode : Mode) (value : String → Json) : Prop where
  inputPath : (checkText mode "input_path" cwd (value "input_path")).Gives config.inputPath
  basePath : (checkText mode "base_path" "" (value "base_path")).Gives config.basePath
  includePath : (checkPosix mode "include_path" defaultIncludePath
    (value "include_path")).Gives config.includePath
  includeNested : (checkTruth mode "include_nested_definitions" false
    (value "include_nested_definitions")).Gives config.includeNested
  extensions : (checkExtensions mode "extensions" defaultExtensions
    (value "extensions")).Gives config.extensions
  excludePatterns : (checkTexts mode "exclude_patterns" defaultExcludePatterns
    (value "exclude_patterns")).Gives config.excludePatterns
  refForwardingWrappers : (checkTexts mode "ref_forwarding_wrappers"
    Syntax.Conventions.defaultWrappers
    (value "ref_forwarding_wrappers")).Gives config.refForwardingWrappers
  frameworkNamespaces : (checkTexts mode "framework_namespaces"
    Syntax.Conventions.defaultNamespaces
    (value "framework_namespaces")).Gives config.frameworkNamespaces
  componentBaseClasses : (checkTexts mode "component_base_classes"
    Syntax.Conventions.defaultBaseClasses
    (value "component_base_classes")).Gives config.componentBaseClasses
  maxWorkers : (checkCount mode "max_workers" 1 (value "max_workers")).Gives config.maxWorkers

/-- Warnings of unknown fields give nothing more. -/
@[simp] theorem gives_forM_warn (names : List String) (value : Unit) :
    Checked.Gives (names.forM fun name => warn (.unknownField name)) value := by
  induction names with
  | nil => exact ⟨[], rfl⟩
  | cons name rest ih => simpa using ih

/-- Validation of fields gives exactly the configuration whose fields are what their checks
give, each for the value under its key or its default. -/
theorem gives_validateFields_iff {cwd : String} {fields : Json.Fields} {config : Config} :
    (validateFields cwd mode fields).Gives config ↔
      config.MadeOf cwd mode (given (standard cwd) fields) := by
  simp only [validateFields, Checked.gives_bind, Checked.gives_pure]
  constructor
  · rintro ⟨-, -, inputPath, input, basePath, base, includePath, fragment, includeNested, nested,
      texts, listed, excludePatterns, exclude, wrappers, wrap, namespaces, names, bases, classes,
      maxWorkers, workers, dotted, dots, rfl⟩
    exact {
      inputPath := input, basePath := base
      includePath := by simpa [checkPosix] using ⟨includePath, fragment, rfl⟩
      includeNested := nested
      extensions := by simpa [checkExtensions] using ⟨texts, listed, dotted, dots, rfl⟩
      excludePatterns := exclude, refForwardingWrappers := wrap, frameworkNamespaces := names
      componentBaseClasses := classes, maxWorkers := workers }
  · intro made
    have fragment := made.includePath
    have extensions := made.extensions
    simp only [checkPosix, checkExtensions, Checked.gives_bind, Checked.gives_pure]
      at fragment extensions
    obtain ⟨path, fragment, posix⟩ := fragment
    obtain ⟨texts, listed, dotted, dots, whole⟩ := extensions
    refine ⟨(), gives_forM_warn _ _, _, made.inputPath, _, made.basePath, _, fragment, _,
      made.includeNested, _, listed, _, made.excludePatterns, _, made.refForwardingWrappers, _,
      made.frameworkNamespaces, _, made.componentBaseClasses, _, made.maxWorkers, _, dots, ?_⟩
    rw [posix, whole]

/-- Lenient validation makes something of every object. -/
theorem exists_madeOf_lenient (cwd : String) (value : String → Json) :
    ∃ config : Config, config.MadeOf cwd .lenient value := by
  have text := fun field fallback => exists_gives_checkText field fallback (value field)
  have texts := fun field fallback => exists_gives_checkTexts field fallback (value field)
  obtain ⟨inputPath, input⟩ := text "input_path" cwd
  obtain ⟨basePath, base⟩ := text "base_path" ""
  obtain ⟨path, fragment⟩ := text "include_path" defaultIncludePath
  obtain ⟨includeNested, nested⟩ :=
    exists_gives_checkTruth "include_nested_definitions" false (value "include_nested_definitions")
  obtain ⟨extensions, dots⟩ :=
    exists_gives_checkExtensions "extensions" defaultExtensions (value "extensions")
  obtain ⟨excludePatterns, exclude⟩ := texts "exclude_patterns" defaultExcludePatterns
  obtain ⟨refForwardingWrappers, wrap⟩ :=
    texts "ref_forwarding_wrappers" Syntax.Conventions.defaultWrappers
  obtain ⟨frameworkNamespaces, names⟩ :=
    texts "framework_namespaces" Syntax.Conventions.defaultNamespaces
  obtain ⟨componentBaseClasses, classes⟩ :=
    texts "component_base_classes" Syntax.Conventions.defaultBaseClasses
  obtain ⟨maxWorkers, workers⟩ := exists_gives_checkCount "max_workers" 1 (value "max_workers")
  exact ⟨⟨inputPath, basePath, Path.toPosix path, extensions, excludePatterns, includeNested,
    refForwardingWrappers, frameworkNamespaces, componentBaseClasses, maxWorkers⟩,
    input, base, by simpa [checkPosix] using ⟨path, fragment, rfl⟩, nested, dots, exclude, wrap,
    names, classes, workers⟩

/-! ## Well-formed configurations -/

/-- Every field but the input path holds what the program expects of it. That there are ten
fields, and of which kinds, is in the type. -/
structure Regular (config : Config) : Prop where
  basePath : Bare config.basePath
  includePath : config.includePath ≠ "" ∧ Bare config.includePath ∧
    '\\' ∉ config.includePath.toList
  extensions : config.extensions ≠ [] ∧ Entries config.extensions ∧
    ∀ extension ∈ config.extensions, Dotted extension
  excludePatterns : config.excludePatterns ≠ [] ∧ Entries config.excludePatterns
  refForwardingWrappers : config.refForwardingWrappers ≠ [] ∧ Entries config.refForwardingWrappers
  frameworkNamespaces : config.frameworkNamespaces ≠ [] ∧ Entries config.frameworkNamespaces
  componentBaseClasses : config.componentBaseClasses ≠ [] ∧ Entries config.componentBaseClasses
  maxWorkers : 1 ≤ config.maxWorkers

/-- Every field holds what the program expects of it. -/
structure WellFormed (config : Config) : Prop extends Regular config where
  inputPath : config.inputPath ≠ "" ∧ Bare config.inputPath

/-- What validation makes of fields is regular, in both modes, if it does not refuse them. -/
theorem regular_of_madeOf {cwd : String} {value : String → Json} {config : Config}
    (made : config.MadeOf cwd mode value) : config.Regular where
  basePath := bare_of_checkText made.basePath Text.bare_empty
  includePath := by
    have fragment := made.includePath
    simp only [checkPosix, Checked.gives_bind, Checked.gives_pure] at fragment
    obtain ⟨path, given, posix⟩ := fragment
    rw [← posix]
    exact ⟨toPosix_ne_empty (ne_empty_of_checkText given (by decide)),
      bare_toPosix (bare_of_checkText given (by decide)), not_mem_toPosix path⟩
  extensions := by
    have extensions := made.extensions
    simp only [checkExtensions, Checked.gives_bind, Checked.gives_pure] at extensions
    obtain ⟨texts, -, dotted, dots, whole⟩ := extensions
    rw [← whole]
    split
    case isTrue => decide
    case isFalse left => exact ⟨by simpa using left, dotted_of_checkDots dots⟩
  excludePatterns := entries_of_checkTexts made.excludePatterns (by decide)
  refForwardingWrappers := entries_of_checkTexts made.refForwardingWrappers (by decide)
  frameworkNamespaces := entries_of_checkTexts made.frameworkNamespaces (by decide)
  componentBaseClasses := entries_of_checkTexts made.componentBaseClasses (by decide)
  maxWorkers := positive_of_checkCount made.maxWorkers (Nat.le_refl 1)

/-- It is well-formed if the working directory can be an input path. -/
theorem wellFormed_of_madeOf {cwd : String} {value : String → Json} {config : Config}
    (made : config.MadeOf cwd mode value) (place : cwd ≠ "" ∧ Bare cwd) : config.WellFormed :=
  { regular_of_madeOf made with
    inputPath := ⟨ne_empty_of_checkText made.inputPath place.1,
      bare_of_checkText made.inputPath place.2⟩ }

/-- When nothing is configured, the fallbacks are in force. -/
theorem madeOf_standard (cwd : String) : (standard cwd).MadeOf cwd mode fun _ => .null where
  inputPath := ⟨[], rfl⟩
  basePath := ⟨[], rfl⟩
  includePath := ⟨[], rfl⟩
  includeNested := ⟨[], rfl⟩
  extensions := by
    have dots : checkDots mode defaultExtensions = pure defaultExtensions :=
      checkDots_of_dotted (by decide) (by decide)
    simp [checkExtensions, checkTexts, dots, standard]
  excludePatterns := ⟨[], rfl⟩
  refForwardingWrappers := ⟨[], rfl⟩
  frameworkNamespaces := ⟨[], rfl⟩
  componentBaseClasses := ⟨[], rfl⟩
  maxWorkers := ⟨[], rfl⟩

/-! ## What is known -/

/-- No key is known twice. -/
theorem nodup_knownKeys : knownKeys.Nodup := by decide

/-- A list of texts as a value is told by the texts. -/
theorem ofStrings_inj {texts others : List String}
    (same : Json.ofStrings texts = Json.ofStrings others) : texts = others :=
  (List.map_inj_right fun _ _ => Json.str.inj).mp (Json.list.inj same)

/-- A configuration is told by its fields. -/
theorem toFields_inj {config other : Config} (same : config.toFields = other.toFields) :
    config = other := by
  cases config
  cases other
  simp only [toFields, List.cons.injEq, Prod.mk.injEq, true_and, Json.str.injEq, Json.bool.injEq,
    Json.int.injEq, Int.natCast_inj, and_true] at same
  obtain ⟨rfl, rfl, rfl, extensions, exclude, rfl, wrappers, namespaces, bases, rfl⟩ := same
  rw [ofStrings_inj extensions, ofStrings_inj exclude, ofStrings_inj wrappers,
    ofStrings_inj namespaces, ofStrings_inj bases]

/-- A configuration is told by what it holds under the known keys. -/
theorem ext_knownKeys {config other : Config}
    (same : ∀ key ∈ knownKeys, config.toFields.get? key = other.toFields.get? key) :
    config = other := by
  refine toFields_inj (Keyed.ext_get? nodup_knownKeys rfl fun key => ?_)
  by_cases known : key ∈ knownKeys
  · exact same key known
  · have unset : ∀ config : Config, config.toFields.get? key = none := fun _ =>
      Keyed.get?_eq_none_iff.mpr known
    rw [unset, unset]

/-- No field of a configuration is unknown, in whatever order the fields stand. -/
theorem unknownFields_eq_nil {config : Config} {fields : Json.Fields}
    (same : fields.Perm config.toFields) : unknownFields fields = [] := by
  have known : fields.keys.filter (!knownKeys.contains ·) = [] := by
    rw [List.filter_eq_nil_iff]
    intro key present
    have named : key ∈ knownKeys := (same.map Prod.fst).subset present
    simpa using named
  rw [unknownFields, known, List.mergeSort_nil]

/-- A known field of a configuration is given as it stands. -/
theorem given_of_perm {config : Config} {fields : Json.Fields} (same : fields.Perm config.toFields)
    (defaults : Config) {key : String} {value : Json}
    (found : config.toFields.get? key = some value) : given defaults fields key = value := by
  rw [given, Keyed.get?_perm same nodup_knownKeys, found]
  rfl

/-- The input path that a text stands for in a working directory. -/
def inputPathIn (cwd path : String) : String :=
  if (Text.trim path).isEmpty then cwd else Text.trim path

/-- A regular configuration is given back without a warning, in whatever order its fields stand.
Of its input path only blanks around it may get lost. -/
theorem validateFields_of_regular {config : Config} (formed : config.Regular) {cwd : String}
    {fields : Json.Fields} (same : fields.Perm config.toFields) :
    validateFields cwd mode fields =
      pure { config with inputPath := inputPathIn cwd config.inputPath } := by
  have value : ∀ key found, config.toFields.get? key = some found →
      given (standard cwd) fields key = found := fun _ _ => given_of_perm same _
  have listed : ∀ field (fallback texts : List String), texts ≠ [] ∧ Entries texts →
      config.toFields.get? field = some (.ofStrings texts) →
      checkTexts mode field fallback (given (standard cwd) fields field) = pure texts := by
    intro field fallback texts entries found
    rw [value field _ found]
    exact checkTexts_of_entries entries.1 entries.2
  obtain ⟨solid, fragment, plain⟩ := formed.includePath
  obtain ⟨filled, entries, dotted⟩ := formed.extensions
  have quiet : (unknownFields fields).forM (fun name => warn (.unknownField name)) = pure () := by
    rw [unknownFields_eq_nil same]
    rfl
  have inputPath : checkText mode "input_path" (standard cwd).inputPath
      (given (standard cwd) fields "input_path") = pure (inputPathIn cwd config.inputPath) := by
    rw [value "input_path" _ rfl]
    rfl
  have basePath : checkText mode "base_path" (standard cwd).basePath
      (given (standard cwd) fields "base_path") = pure config.basePath := by
    rw [value "base_path" _ rfl]
    exact checkText_of_bare formed.basePath fun _ => rfl
  have includePath : checkText mode "include_path" (standard cwd).includePath
      (given (standard cwd) fields "include_path") = pure config.includePath := by
    rw [value "include_path" _ rfl]
    exact checkText_of_bare fragment fun empty => absurd empty solid
  have includeNested : checkTruth mode "include_nested_definitions" (standard cwd).includeNested
      (given (standard cwd) fields "include_nested_definitions") = pure config.includeNested := by
    rw [value "include_nested_definitions" _ rfl]
    rfl
  have maxWorkers : checkCount mode "max_workers" (standard cwd).maxWorkers
      (given (standard cwd) fields "max_workers") = pure config.maxWorkers := by
    rw [value "max_workers" _ rfl]
    exact checkCount_of_positive formed.maxWorkers
  simp only [validateFields, quiet, inputPath, basePath, includePath, includeNested, maxWorkers,
    listed "extensions" _ _ ⟨filled, entries⟩ rfl,
    listed "exclude_patterns" _ _ formed.excludePatterns rfl,
    listed "ref_forwarding_wrappers" _ _ formed.refForwardingWrappers rfl,
    listed "framework_namespaces" _ _ formed.frameworkNamespaces rfl,
    listed "component_base_classes" _ _ formed.componentBaseClasses rfl,
    checkDots_of_dotted entries dotted, Checked.pure_bind, Path.toPosix_eq_self plain,
    List.isEmpty_iff, filled, if_false]

/-- A text that says something, without blanks around it, stands for itself as an input path. -/
theorem inputPathIn_of_bare {path : String} (solid : path ≠ "") (bare : Bare path) (cwd : String) :
    inputPathIn cwd path = path := by
  simp [inputPathIn, bare.trim_eq, solid]

/-- Where the working directory can be an input path, what stands for itself can be one. -/
theorem solid_of_inputPathIn {cwd path : String} (place : cwd ≠ "" ∧ Bare cwd)
    (same : inputPathIn cwd path = path) : path ≠ "" ∧ Bare path := by
  rw [inputPathIn] at same
  split at same
  case isTrue => exact same ▸ place
  case isFalse left => exact ⟨same ▸ by simpa using left, same ▸ Text.bare_trim path⟩

/-- The input path of a well-formed configuration stands for itself. -/
theorem inputPathIn_of_wellFormed {config : Config} (formed : config.WellFormed) (cwd : String) :
    inputPathIn cwd config.inputPath = config.inputPath :=
  inputPathIn_of_bare formed.inputPath.1 formed.inputPath.2 cwd

/-- A well-formed configuration is given back as it is. -/
theorem validateFields_of_wellFormed {config : Config} (formed : config.WellFormed) {cwd : String}
    {fields : Json.Fields} (same : fields.Perm config.toFields) :
    validateFields cwd mode fields = pure config := by
  rw [validateFields_of_regular formed.toRegular same, inputPathIn_of_wellFormed formed]

/-! ## Validating twice -/

/-- Lenient validation is not refused. -/
theorem gives_validated (cwd : String) (raw : Json) :
    (validate cwd .lenient raw).Gives (validated cwd raw).1 := by
  cases raw with
  | object fields =>
    obtain ⟨config, made⟩ := exists_madeOf_lenient cwd (given (standard cwd) fields)
    obtain ⟨warnings, valid⟩ := gives_validateFields_iff.mpr made
    have whole : validate cwd .lenient (.object fields) = .ok (config, warnings) := valid
    rw [validated, whole]
    exact ⟨warnings, rfl⟩
  | _ => exact ⟨_, rfl⟩

/-- What is validated of an object is made of its fields. -/
theorem madeOf_validated (cwd : String) (fields : Json.Fields) :
    (validated cwd (.object fields)).1.MadeOf cwd .lenient (given (standard cwd) fields) :=
  gives_validateFields_iff.mp (gives_validated cwd (.object fields))

/-- Of what is no object, the configuration of the fallbacks is made. -/
theorem exists_madeOf_validated (cwd : String) (raw : Json) :
    ∃ value, (validated cwd raw).1.MadeOf cwd .lenient value := by
  cases raw with
  | object fields => exact ⟨_, madeOf_validated cwd fields⟩
  | _ => exact ⟨_, madeOf_standard cwd⟩

/-- What is validated is regular. -/
theorem regular_validated (cwd : String) (raw : Json) : (validated cwd raw).1.Regular := by
  obtain ⟨value, made⟩ := exists_madeOf_validated cwd raw
  exact regular_of_madeOf made

/-- A validated input path is the working directory, or it says something and has no blanks around
it. -/
theorem inputPath_validated (cwd : String) (raw : Json) :
    (validated cwd raw).1.inputPath = cwd ∨
      ((validated cwd raw).1.inputPath ≠ "" ∧ Bare (validated cwd raw).1.inputPath) := by
  obtain ⟨value, made⟩ := exists_madeOf_validated cwd raw
  exact fallback_or_solid_of_checkText made.inputPath

/-- What is validated is well-formed where the working directory can be an input path. -/
theorem wellFormed_validated {cwd : String} (place : cwd ≠ "" ∧ Bare cwd) (raw : Json) :
    (validated cwd raw).1.WellFormed := by
  obtain ⟨value, made⟩ := exists_madeOf_validated cwd raw
  exact wellFormed_of_madeOf made place

/-- A well-formed configuration takes no warning. -/
theorem validate_of_wellFormed {config : Config} (formed : config.WellFormed) {fields : Json.Fields}
    (same : fields.Perm config.toFields) (cwd : String) (mode : Mode) :
    validate cwd mode (.object fields) = .ok (config, []) :=
  validateFields_of_wellFormed formed same

/-- Where no warning is taken, there is nothing to be put into words. -/
theorem review_of_validate {cwd : String} {mode : Mode} {raw : Json} {config : Config}
    (valid : validate cwd mode raw = .ok (config, [])) :
    review cwd mode raw = .ok (config, []) := by
  rw [review, valid]
  rfl

/-- A regular configuration is given back without a word, but for its input path. -/
theorem review_of_regular {config : Config} (formed : config.Regular) {fields : Json.Fields}
    (same : fields.Perm config.toFields) (cwd : String) (mode : Mode) :
    review cwd mode (.object fields) =
      .ok ({ config with inputPath := inputPathIn cwd config.inputPath }, []) :=
  review_of_validate (validateFields_of_regular formed same)

/-- A well-formed configuration is given back without a word. -/
theorem review_of_wellFormed {config : Config} (formed : config.WellFormed) {fields : Json.Fields}
    (same : fields.Perm config.toFields) (cwd : String) (mode : Mode) :
    review cwd mode (.object fields) = .ok (config, []) :=
  review_of_validate (validate_of_wellFormed formed same cwd mode)

/-- What lenient validation gives is what the checks give. -/
theorem fst_of_review {cwd : String} {raw : Json} {config : Config} {messages : List String}
    (given : review cwd .lenient raw = .ok (config, messages)) :
    (validated cwd raw).1 = config := by
  have speakable : ¬ Unspeakable raw := fun unspeakable => by
    rw [(review_lenient_eq_error_iff _).mpr ⟨unspeakable, rfl⟩] at given
    cases given
  obtain ⟨others, same⟩ := exists_review_lenient cwd speakable
  rw [given] at same
  cases same
  rfl

/-- It is well-formed where the working directory can be an input path. -/
theorem wellFormed_of_review {cwd : String} (place : cwd ≠ "" ∧ Bare cwd) {raw : Json}
    {config : Config} {messages : List String}
    (given : review cwd .lenient raw = .ok (config, messages)) : config.WellFormed :=
  fst_of_review given ▸ wellFormed_validated place raw

/-- A scan by the fields of a well-formed configuration is a scan by the configuration. -/
theorem scan_of_wellFormed {config : Config} (formed : config.WellFormed) (parser : Scan.Parser)
    (disk : Disk) (env : Path.Environment) (now : Time.Instant) :
    Scan.run parser disk env now (.object config.toFields) =
      Scan.scan parser disk env now config := by
  rw [Scan.run, review_of_wellFormed formed (List.Perm.refl _)]
  rfl

/-- In a working directory that can be an input path, lenient validation gives well-formed
configurations only, and it fails for one reason: the value for the number of workers does not fit
and holds an integer with too many digits, which no warning can show. No value that is read from a
document is of that kind. Well-formed configurations are given back as they are, in both modes and
without a warning, in whatever order their fields stand. So what was validated once is not changed
by being validated again, and a scan that validates it scans by it.

Validation goes field by field, and each check gives what it gives back. -/
theorem validation_idempotent {cwd : String} (place : cwd ≠ "" ∧ Bare cwd) :
    (∀ raw, ¬ Unspeakable raw → ∃ config messages,
      review cwd .lenient raw = .ok (config, messages) ∧ config.WellFormed) ∧
    (∀ raw refusal, review cwd .lenient raw = .error refusal ↔
      Unspeakable raw ∧ refusal = .unspeakable) ∧
    (∀ text raw, Json.parse text = .ok raw → ¬ Unspeakable raw) ∧
    (∀ (config : Config) (fields : Json.Fields), config.WellFormed → fields.Perm config.toFields →
      ∀ mode, review cwd mode (.object fields) = .ok (config, [])) ∧
    (∀ raw config messages, review cwd .lenient raw = .ok (config, messages) →
      (∀ mode, review cwd mode (.object config.toFields) = .ok (config, [])) ∧
      ∀ parser disk env now, Scan.run parser disk env now (.object config.toFields) =
        Scan.scan parser disk env now config) := by
  refine ⟨?_, ?_, ?_, ?_, ?_⟩
  · intro raw speakable
    obtain ⟨messages, given⟩ := exists_review_lenient cwd speakable
    exact ⟨_, messages, given, wellFormed_of_review place given⟩
  · intro raw refusal
    exact review_lenient_eq_error_iff cwd
  · intro text raw
    exact not_unspeakable_of_parse
  · intro config fields formed same mode
    exact review_of_wellFormed formed same cwd mode
  · intro raw config messages given
    have formed := wellFormed_of_review place given
    exact ⟨fun mode => review_of_wellFormed formed (List.Perm.refl _) cwd mode,
      fun parser disk env now => scan_of_wellFormed formed parser disk env now⟩

/-- A configuration with its fields from last to first, validated strictly. -/
theorem validation_idempotent_reversed :
    let config : Config := { standard "/srv" with
      basePath := "app", includePath := "ui/ kit", extensions := [".vue", "."], maxWorkers := 8 }
    ("/srv" ≠ "" ∧ Bare "/srv") ∧ config.WellFormed ∧
    config.toFields.reverse.Perm config.toFields ∧
    review "/srv" .strict (.object config.toFields.reverse) = .ok (config, []) := by
  intro config
  have place : "/srv" ≠ "" ∧ Bare "/srv" := by decide
  have formed : config.WellFormed :=
    ⟨⟨by decide, by decide, by decide, by decide, by decide, by decide, by decide, by decide⟩,
      by decide⟩
  have same : config.toFields.reverse.Perm config.toFields := List.reverse_perm _
  exact ⟨place, formed, same, (validation_idempotent place).2.2.2.1 config _ formed same .strict⟩

/-- A number of workers that is far below zero makes lenient validation fail. -/
theorem lenient_validation_fails :
    ("/srv" ≠ "" ∧ Bare "/srv") ∧
    review "/srv" .lenient (.object [("max_workers", .int (-(10 ^ 5000 : Nat)))]) =
      .error .unspeakable :=
  ⟨by decide, (review_lenient_eq_error_iff _).mpr ⟨unspeakable_neg_pow 5000 (by decide), rfl⟩⟩

end ComponentAtlas.Config
