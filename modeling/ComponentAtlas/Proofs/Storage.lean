import ComponentAtlas.Proofs.Encoding
import ComponentAtlas.Proofs.Layering
import ComponentAtlas.Proofs.Printing

/-!
# Saved configurations

A configuration is saved as an object with its version in front of its fields. What is printed
for that object is read back, the version is taken out, and the fields cover all the defaults
that lie under them; so loading gives the fields that were saved, whatever the working directory
has become. They were validated before they were saved, and validation gives them back.
-/

namespace ComponentAtlas.Disk

/-! ## Running actions -/

/-- The second action runs on what the first leaves, if it does not fail. -/
theorem run_bind {α β : Type} (action : Action α) (next : α → Action β) (disk : Disk) :
    (action >>= next).run disk = match action.run disk with
      | (.ok value, after) => (next value).run after
      | (.error fault, after) => (.error fault, after) := by
  simp only [bind, ExceptT.bind, ExceptT.mk, ExceptT.run, StateT.bind]
  cases action disk with
  | mk result after => cases result <;> rfl

/-- A handler runs on what a failing action leaves. -/
theorem run_tryCatch {α : Type} (action : Action α) (handle : Fault → Action α) (disk : Disk) :
    (tryCatch action handle : Action α).run disk = match action.run disk with
      | (.ok value, after) => (.ok value, after)
      | (.error fault, after) => (handle fault).run after := by
  simp only [tryCatch, tryCatchThe, MonadExceptOf.tryCatch, ExceptT.tryCatch, ExceptT.mk,
    ExceptT.run, bind, StateT.bind]
  cases action disk with
  | mk result after => cases result <;> rfl

/-- A directory that is there is left as it is. -/
theorem run_ensureDirectory {disk : Disk} {path : String} {place : List String} {entry : Entry}
    (found : disk.locate false (withoutSlashes path) = .ok (.present place entry))
    (there : disk.holdsDirectory path = true) :
    (ensureDirectory path).run disk = (.ok (), disk) := by
  have occupied : (makeDirectory path).run disk = (.error ⟨.occupied, path⟩, disk) := by
    rw [makeDirectory, run_get, found]
    rfl
  rw [ensureDirectory, run_tryCatch, occupied]
  dsimp only
  rw [run_get, if_pos there]
  rfl

/-- The directory of everything is always there. -/
theorem run_makeDirectories_root {disk : Disk} {listable : Bool} {entries : List (String × Entry)}
    (directory : disk.root = .directory listable entries) :
    (makeDirectories ['/']).run disk = (.ok (), disk) := by
  have located : ∀ follow, disk.locate follow "/" = .ok (.present [] disk.root) := by
    intro follow
    simp [locate, Path.below, Path.split, walk, directory]
  have there : disk.holdsDirectory "/" = true := by
    simp [holdsDirectory, find?, located, directory]
  have bottom : parentAndName ['/'] = (['/'], []) := by decide
  rw [makeDirectories, bottom]
  dsimp only
  rw [run_get]
  exact run_ensureDirectory (located false) there

/-- A file that is not there is made. -/
theorem run_writeText {disk : Disk} {path text : String} {name : List String}
    (plain : meansDirectory path = false) (found : disk.locate true path = .ok (.absent name)) :
    (writeText path text).run disk =
      (.ok (), { disk with root := Entry.put (.file (Text.Utf8.encode text)) name disk.root }) := by
  rw [writeText, writeFile, changeFile, plain]
  change (get >>= _ : Action Unit).run disk = _
  rw [run_get, found]
  rfl

end ComponentAtlas.Disk

namespace ComponentAtlas.Config

open Text (Bare)

/-! ## What is written -/

/-- The text that is written for fields. -/
def storedText (fields : Json.Fields) : String :=
  Json.Printer.value 4 0 (.object (toStore fields))

/-- The version is none of the known keys. -/
theorem nodup_version : ("version" :: knownKeys).Nodup := by decide

/-- The version stands in front of the fields. -/
theorem toStore_toFields (config : Config) :
    toStore config.toFields = ("version", .str currentVersion) :: config.toFields := by
  have distinct : (Keyed.keys ([("version", Json.str currentVersion)] ++ config.toFields)).Nodup :=
    nodup_version
  exact Keyed.update_of_disjoint distinct

/-- A list of texts is printed without loss. -/
theorem exact_ofStrings (texts : List String) : (Json.ofStrings texts).Exact := by
  refine .list ?_
  rw [List.forall_mem_map]
  exact fun text _ => .str text

/-- What is stored for a configuration is printed without loss, if its number of workers is. -/
theorem exact_toStore {config : Config} (short : Text.isShort config.maxWorkers = true) :
    (Json.object (toStore config.toFields)).Exact := by
  rw [toStore_toFields]
  refine .object nodup_version ?_
  simp only [toFields, List.forall_mem_cons]
  exact ⟨.str _, .str _, .str _, .str _, exact_ofStrings _, exact_ofStrings _, .bool _,
    exact_ofStrings _, exact_ofStrings _, exact_ofStrings _, .int short, List.forall_mem_nil _⟩

/-- Without its version, what is stored covers the defaults. -/
theorem stored_toStore (defaults config : Config) :
    stored defaults.toFields (toStore config.toFields) = config.toFields := by
  have version : "version" ∉ config.toFields.keys := (List.nodup_cons.mp nodup_version).1
  have others : Keyed.erase (toStore config.toFields) "version" = config.toFields := by
    rw [toStore_toFields]
    exact Keyed.erase_eq_self version
  rw [stored, others]
  exact Keyed.update_of_keys_eq rfl nodup_knownKeys

/-- The version that is stored is the one that is known. -/
theorem versionRemark_toStore (config : Config) :
    versionRemark (toStore config.toFields) = .ok [] := by
  rw [toStore_toFields]
  rfl

/-! ## What is loaded -/

/-- The fields of a configuration are loaded from the text that is written for them, and nothing
is said of it. -/
theorem load_of_readText {disk : Disk} {path : String} {config : Config}
    (short : Text.isShort config.maxWorkers = true)
    (read : disk.readText path = .ok (storedText config.toFields)) :
    load disk path = .ok (config.toFields, []) := by
  have document : Json.parse (storedText config.toFields) =
      .ok (.object (toStore config.toFields)) := Json.parse_value (exact_toStore short) 4
  have fields : readStored disk path = .ok (.ok (toStore config.toFields)) := by
    simp [readStored, Disk.holds_of_readText read, read, document]
  simp only [load, fields, bind, Except.bind, versionRemark_toStore, stored_toStore]
  rfl

/-- When two actions have succeeded, the second ran on what the first left. -/
theorem exists_of_run_bind {α β : Type} {action : Disk.Action α} {next : α → Disk.Action β}
    {disk after : Disk} {result : β} (whole : (action >>= next).run disk = (.ok result, after)) :
    ∃ value middle, action.run disk = (.ok value, middle) ∧
      (next value).run middle = (.ok result, after) := by
  rw [Disk.run_bind] at whole
  cases first : action.run disk with
  | mk outcome middle =>
    rw [first] at whole
    cases outcome with
    | error fault => cases whole
    | ok value => exact ⟨value, middle, rfl, whole⟩

/-- When saving has succeeded, the text of the fields was written last, and no integer among them
has too many digits. -/
theorem exists_writeText {fields : Json.Fields} {path : String} {disk saved : Disk}
    (written : (writeStored fields path).run disk = (.ok (.ok ()), saved)) :
    ¬ Json.HoldsLong (.object (toStore fields)) ∧
    ∃ prepared, (Disk.writeText path (storedText fields)).run prepared = (.ok (), saved) := by
  rw [writeStored, Disk.run_get] at written
  obtain ⟨-, prepared, -, written⟩ := exists_of_run_bind written
  split at written
  case h_1 text rendered =>
    obtain ⟨short, rfl⟩ := Json.render_eq_ok_iff.mp rendered
    obtain ⟨⟨⟩, after, last, rest⟩ := exists_of_run_bind written
    cases rest
    exact ⟨short, prepared, last⟩
  case h_2 part rendered =>
    obtain ⟨-, after, -, rest⟩ := exists_of_run_bind written
    cases rest

/-- So the number of workers is short. -/
theorem isShort_of_writeStored {config : Config} {path : String} {disk saved : Disk}
    (written : (writeStored config.toFields path).run disk = (.ok (.ok ()), saved)) :
    Text.isShort config.maxWorkers = true := by
  have present : ("max_workers", Json.int config.maxWorkers) ∈ toStore config.toFields := by
    rw [toStore_toFields]
    simp [toFields]
  by_contra long
  exact (exists_writeText written).1 (.object present (.int (Bool.not_eq_true _ ▸ long)))

/-- A configuration whose number of workers is short is saved in a directory that is empty. -/
theorem run_writeStored_of_short {config : Config} (short : Text.isShort config.maxWorkers = true)
    (cwd : String) :
    (writeStored config.toFields "/saved").run ⟨.directory true [], cwd⟩ =
      (.ok (.ok ()), ⟨.directory true
        [("saved", .file (Text.Utf8.encode (storedText config.toFields)))], cwd⟩) := by
  have outer : Disk.outerDirectory ⟨.directory true [], cwd⟩ "/saved" = ['/'] := by
    have rooted : Path.below cwd.toList "/saved".toList = "/saved".toList := if_pos rfl
    have normal : Path.directory (Path.normalize "/saved".toList) = ['/'] := by decide
    rw [Disk.outerDirectory, Path.absolute, rooted, normal]
  have absent : Disk.locate ⟨.directory true [], cwd⟩ true "/saved" =
      .ok (.absent ["saved"]) := by
    simp [Disk.locate, Path.below, Path.split, Disk.walk, Keyed.get?]
  have rendered : (Json.object (toStore config.toFields)).render 4 =
      .ok (storedText config.toFields) :=
    Json.render_eq_ok_iff.mpr ⟨(exact_toStore short).not_holdsLong, rfl⟩
  rw [writeStored, Disk.run_get, outer, Disk.run_bind, Disk.run_makeDirectories_root rfl]
  dsimp only
  rw [rendered]
  dsimp only
  rw [Disk.run_bind, Disk.run_writeText (by decide) absent]
  rfl

/-- From where it is saved its bytes are read. -/
theorem readBytes_saved (bytes : List UInt8) (cwd : String) :
    Disk.readBytes ⟨.directory true [("saved", .file bytes)], cwd⟩ "/saved" = .ok bytes := by
  simp [Disk.readBytes, Disk.locate, Path.below, Path.split, Disk.walk, Keyed.get?]

/-! ## Saving and loading -/

/-- A configuration that lenient validation has given outlasts being saved. When saving has
succeeded, its text was written last. As long as the file holds the bytes of that text, the text
is read from it; no line end is changed, since a printed value has no carriage return. And where
the text is read, in whatever working directory, the fields that were saved are loaded without
a word, and validation in either mode gives the configuration back without a warning. Only its input
path may have changed: what blanks stand around it get lost, and a blank one becomes the working
directory. This happens exactly if it is the working directory in which the configuration was
validated first, and that has such a name. Otherwise a scan by what was loaded is a scan by the
configuration.

All that lies under this is that a value which is printed without loss is read back, with any
indentation. -/
theorem saved_configuration_returns {cwd : String} {raw : Json} {config : Config}
    {messages : List String} (valid : review cwd .lenient raw = .ok (config, messages))
    {path : String} {disk saved : Disk}
    (written : (writeStored config.toFields path).run disk = (.ok (.ok ()), saved)) :
    (∀ json : Json, json.Exact → ∀ indent,
      ∃ text, json.render indent = .ok text ∧ Json.parse text = .ok json) ∧
    (∃ prepared, (Disk.writeText path (storedText config.toFields)).run prepared =
      (.ok (), saved)) ∧
    ∀ later : Disk,
      (later.readBytes path = .ok (Text.Utf8.encode (storedText config.toFields)) →
        later.readText path = .ok (storedText config.toFields)) ∧
      (later.readText path = .ok (storedText config.toFields) →
        load later path = .ok (config.toFields, []) ∧
        (∀ mode, review later.cwd mode (.object config.toFields) =
          .ok ({ config with inputPath := inputPathIn later.cwd config.inputPath }, [])) ∧
        ((config.inputPath = cwd → cwd ≠ "" ∧ Bare cwd) →
          (∀ mode, review later.cwd mode (.object config.toFields) = .ok (config, [])) ∧
          ∀ parser env now, Scan.run parser later env now (.object config.toFields) =
            Scan.scan parser later env now config) ∧
        (later.cwd ≠ "" ∧ Bare later.cwd →
          ∀ mode, review later.cwd mode (.object config.toFields) = .ok (config, []) →
            config.inputPath = cwd → cwd ≠ "" ∧ Bare cwd)) := by
  have same : (validated cwd raw).1 = config := fst_of_review valid
  have regular : config.Regular := same ▸ regular_validated cwd raw
  have short := isShort_of_writeStored written
  have exact := exact_toStore short
  refine ⟨fun json => Json.parse_render, (exists_writeText written).2, fun later => ?_⟩
  have again := review_of_regular regular (List.Perm.refl _) later.cwd
  constructor
  · exact Disk.readText_of_readBytes (Json.no_return_value exact 4)
  · intro read
    refine ⟨load_of_readText short read, again, fun place => ?_, fun place mode kept here => ?_⟩
    · have formed : config.WellFormed := by
        refine ⟨regular, ?_⟩
        rcases same ▸ inputPath_validated cwd raw with here | solid
        · exact here ▸ place here
        · exact solid
      exact ⟨fun mode => review_of_wellFormed formed (List.Perm.refl _) later.cwd mode,
        fun parser env now => scan_of_wellFormed formed parser later env now⟩
    · have whole := Except.ok.inj ((again mode).symm.trans kept)
      have fixed := congrArg inputPath (Prod.mk.inj whole).1
      dsimp only at fixed
      exact here ▸ solid_of_inputPathIn place fixed

/-- Line ends and quotes in a path and a number of many digits, saved in one working directory and
loaded in another. -/
theorem saved_configuration_returns_quoted :
    let raw : Json := .object [("base_path", .str "caf\u00e9\r\n\"ui\""),
      ("max_workers", .int 18446744073709551616)]
    let config : Config := { standard "/srv" with
      basePath := "caf\u00e9\r\n\"ui\"", maxWorkers := 18446744073709551616 }
    let file : Disk.Entry := .file (Text.Utf8.encode (storedText config.toFields))
    let later : Disk := ⟨.directory true [("saved", file)], "/home"⟩
    review "/srv" .lenient raw = .ok (config, []) ∧
    (writeStored config.toFields "/saved").run ⟨.directory true [], "/srv"⟩ =
      (.ok (.ok ()), ⟨.directory true [("saved", file)], "/srv"⟩) ∧
    load later "/saved" = .ok (config.toFields, []) ∧
    review "/home" .strict (.object config.toFields) = .ok (config, []) := by
  intro raw config file later
  have place : "/srv" ≠ "" ∧ Bare "/srv" := by decide
  have valid : review "/srv" .lenient raw = .ok (config, []) := by
    have known : unknownFields [("base_path", .str "caf\u00e9\r\n\"ui\""),
        ("max_workers", .int 18446744073709551616)] = [] := by decide +kernel
    apply review_of_validate
    change validateFields _ _ _ = _
    rw [validateFields, known]
    rfl
  have short : Text.isShort config.maxWorkers = true := by decide +kernel
  have written := run_writeStored_of_short short "/srv"
  obtain ⟨-, -, returns⟩ := saved_configuration_returns valid written
  obtain ⟨read, returned⟩ := returns later
  obtain ⟨loaded, -, again, -⟩ := returned (read (readBytes_saved _ _))
  exact ⟨valid, written, loaded, (again fun _ => place).1 .strict⟩

/-- A configuration of a working directory with a blank at its end loses the blank when it is
validated again. -/
theorem saved_configuration_stripped :
    let config := standard "/srv/dir "
    let file : Disk.Entry := .file (Text.Utf8.encode (storedText config.toFields))
    let later : Disk := ⟨.directory true [("saved", file)], "/home"⟩
    review "/srv/dir " .lenient (.object [("input_path", .null)]) = .ok (config, []) ∧
    (writeStored config.toFields "/saved").run ⟨.directory true [], "/srv/dir "⟩ =
      (.ok (.ok ()), ⟨.directory true [("saved", file)], "/srv/dir "⟩) ∧
    ("/home" ≠ "" ∧ Bare "/home") ∧
    load later "/saved" = .ok (config.toFields, []) ∧
    review "/home" .lenient (.object config.toFields) =
      .ok ({ config with inputPath := "/srv/dir" }, []) ∧
    { config with inputPath := "/srv/dir" } ≠ config := by
  intro config file later
  have valid :
      review "/srv/dir " .lenient (.object [("input_path", .null)]) = .ok (config, []) := by
    have known : unknownFields [("input_path", .null)] = [] := by decide +kernel
    apply review_of_validate
    change validateFields _ _ _ = _
    rw [validateFields, known]
    rfl
  have short : Text.isShort config.maxWorkers = true := by decide +kernel
  have regular : config.Regular := by
    have made := regular_validated "/srv/dir " (.object [("input_path", .null)])
    rwa [fst_of_review valid] at made
  have trimmed : inputPathIn "/home" config.inputPath = "/srv/dir" := by decide
  have again := review_of_regular regular (List.Perm.refl _) "/home" .lenient
  rw [trimmed] at again
  have read : later.readText "/saved" = .ok (storedText config.toFields) :=
    Disk.readText_of_readBytes (Json.no_return_value (exact_toStore short) 4) (readBytes_saved _ _)
  refine ⟨valid, run_writeStored_of_short short _, by decide, load_of_readText short read, ?_, ?_⟩
  · exact again
  · intro same
    exact absurd (congrArg inputPath same) (by decide)

end ComponentAtlas.Config
