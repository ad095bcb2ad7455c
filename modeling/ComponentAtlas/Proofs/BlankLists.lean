import ComponentAtlas.CommandLine.Run
import ComponentAtlas.Proofs.Layering
import ComponentAtlas.Proofs.Strictness
import Mathlib.Data.String.Basic

/-!
# Lists that name nothing

A command line gives a list as a text with commas between its pieces. The text may name nothing,
because its pieces are all blank. Three steps take such a text to a configuration, and each asks
something else of it. The command line leaves a list out if the text is empty. Layering leaves out
what is null. Validation leaves out a list without pieces and puts the default in its place.

So the empty text is no list at all, and what lies below the command line stays. Any other text that
names nothing is an empty list. It covers the list below, and what comes of it is the default. That
makes a difference exactly if another list than the default lies below.
-/

namespace ComponentAtlas.Text

/-! ## Pieces between commas -/

/-- A comma as a text separates what a comma as a character does. -/
theorem splitOnAux_comma (s : String) (b i : String.Pos.Raw) (pieces : List String) :
    s.splitOnAux "," b i 0 pieces = s.splitAux (· == ',') b i pieces := by
  have comma : String.Pos.Raw.get "," 0 = ',' := by decide
  have past : String.Pos.Raw.next "," 0 = ⟨1⟩ := by decide
  have behind : String.Pos.Raw.atEnd "," ⟨1⟩ = true := by decide
  fun_induction String.splitAux s (· == ',') b i pieces with
  | case1 b i pieces last => rw [String.splitOnAux, if_pos last]
  | case2 b i pieces more _ separator next ih =>
    -- The piece ends before the comma, which is one byte long.
    have back : (String.Pos.Raw.next s i).unoffsetBy ⟨1⟩ = i := by
      have found : String.Pos.Raw.get s i = ',' := by simpa using separator
      rw [String.Pos.Raw.next, found]
      rfl
    rw [String.splitOnAux, if_neg more]
    simp only [comma, past, behind, back]
    rw [if_pos separator, if_pos trivial, ih]
  | case3 b i pieces more _ other ih =>
    have back : i.unoffsetBy 0 = i := rfl
    rw [String.splitOnAux, if_neg more]
    simp only [comma, back]
    rw [if_neg other, ih]

/-- The pieces of a text between its commas are pieces of its characters. -/
theorem splitOn_comma (s : String) :
    s.splitOn "," = (s.toList.splitOnP (· == ',')).map String.ofList := by
  have solid : ("," == "") = false := by decide
  rw [String.splitOn, solid, ← String.splitToList_of_valid, String.splitToList, ← splitOnAux_comma]
  rfl

/-- What holds of all between separators holds of all but separators. -/
theorem forall_mem_splitOnP {α : Type} (separates : α → Bool) (holds : α → Prop) (row : List α) :
    (∀ piece ∈ row.splitOnP separates, ∀ a ∈ piece, holds a) ↔
      ∀ a ∈ row, separates a = true ∨ holds a := by
  induction row with
  | nil => simp
  | cons a rest ih =>
    rw [List.splitOnP_cons_eq_if_modifyHead, List.forall_mem_cons, ← ih]
    obtain ⟨first, others, pieces⟩ :=
      List.exists_cons_of_ne_nil (List.splitOnP_ne_nil separates rest)
    cases separates a <;> simp [pieces, and_assoc]

end ComponentAtlas.Text

namespace ComponentAtlas.Config

/-- A text names nothing exactly if it holds commas and blanks alone. -/
theorem isBlankList_iff {text : String} :
    IsBlankList text ↔ ∀ c ∈ text.toList, c = ',' ∨ Text.isBlank c = true := by
  have chars := Text.forall_mem_splitOnP (· == ',') (Text.isBlank · = true) text.toList
  simp only [beq_iff_eq] at chars
  rw [← chars, IsBlankList, Text.splitOn_comma, List.forall_mem_map]
  simp only [Text.trim_eq_empty_iff, String.toList_ofList]

/-- That a text names nothing is decided piece by piece. -/
instance (text : String) : Decidable (IsBlankList text) :=
  -- The characters of the text are gone through, not all characters that there are.
  @decidable_of_iff' _ _ isBlankList_iff (List.decidableBAll _ _)

end ComponentAtlas.Config

namespace ComponentAtlas.CommandLine

open Config (IsBlankList Unspeakable splitList validated review merge checkTexts checkExtensions
  isGiven)
open Session (Step)

/-! ## Flags that take a list -/

/-- The flags that take a list. -/
inductive ListFlag where
  | extensions
  | exclude
  deriving Repr, DecidableEq

namespace ListFlag

/-- The key of a configuration that the flag reaches. -/
def key : ListFlag → String
  | extensions => "extensions"
  | exclude => "exclude_patterns"

/-- The list that is in force when nothing is configured. -/
def standard : ListFlag → List String
  | extensions => Config.defaultExtensions
  | exclude => Config.defaultExcludePatterns

/-- The arguments with a text for the flag, or without one. -/
def put (flag : ListFlag) (text : Option String) (arguments : Arguments) : Arguments :=
  match flag with
  | extensions => { arguments with extensions := text }
  | exclude => { arguments with excludePatterns := text }

/-- The list of a configuration that the flag reaches. -/
def list (flag : ListFlag) (config : Config) : List String :=
  match flag with
  | extensions => config.extensions
  | exclude => config.excludePatterns

/-- The configuration with another list. -/
def withList (flag : ListFlag) (texts : List String) (config : Config) : Config :=
  match flag with
  | extensions => { config with extensions := texts }
  | exclude => { config with excludePatterns := texts }

/-- Lenient validation of the list. -/
def check : ListFlag → Json → Config.Checked (List String)
  | extensions => checkExtensions .lenient "extensions" Config.defaultExtensions
  | exclude => checkTexts .lenient "exclude_patterns" Config.defaultExcludePatterns

/-- A configuration stays as it is exactly if it is given the list that it has. -/
theorem withList_eq_self_iff {flag : ListFlag} {texts : List String} {config : Config} :
    flag.withList texts config = config ↔ flag.list config = texts := by
  cases flag <;> cases config <;> simp [withList, list, eq_comm]

end ListFlag

/-- The configuration that arguments come to over the fields below them. -/
def Arguments.configOver (arguments : Arguments) (cwd : String) (base : Json.Fields) : Config :=
  (validated cwd (.object (merge base arguments.overrides))).1

/-- What validation makes of arguments over the fields below them: that configuration, or a
crash. -/
def Arguments.outcomeOver (arguments : Arguments) (cwd : String) (base : Json.Fields) :
    Except Crash Config :=
  ((review cwd .lenient (.object (merge base arguments.overrides))).map Prod.fst).mapError
    Config.Refusal.crash

section

variable (arguments : Arguments) (cwd : String) (base : Json.Fields)

/-- It is a crash if the number of workers neither fits nor can be shown. -/
theorem outcomeOver_of_unspeakable
    (unspeakable : Unspeakable (.object (merge base arguments.overrides))) :
    arguments.outcomeOver cwd base = .error Crash.tooLongToWrite := by
  rw [Arguments.outcomeOver, (Config.review_lenient_eq_error_iff cwd).mpr ⟨unspeakable, rfl⟩]
  rfl

/-- Otherwise it is the configuration. -/
theorem outcomeOver_of_speakable
    (speakable : ¬ Unspeakable (.object (merge base arguments.overrides))) :
    arguments.outcomeOver cwd base = .ok (arguments.configOver cwd base) := by
  obtain ⟨messages, given⟩ := Config.exists_review_lenient cwd speakable
  rw [Arguments.outcomeOver, given]
  rfl

end

/-! ## Runs -/

section

variable {α β : Type}

/-- The second step of a run starts from what the first leaves, unless that crashes. -/
theorem run_bind (first : Attempt α) (next : α → Attempt β) (session : Session) :
    (first >>= next).run.run session = match first.run.run session with
      | (.ok value, after) => (next value).run.run after
      | (.error crash, after) => (.error crash, after) := by
  simp only [bind, ExceptT.bind, ExceptT.run, ExceptT.mk, StateT.bind, StateT.run]
  rcases first session with ⟨_ | _, after⟩ <;> rfl

/-- A step that cannot crash does not. -/
theorem run_liftM (step : Step α) (session : Session) :
    (liftM step : Attempt α).run.run session =
      (.ok (step.run session).1, (step.run session).2) := rfl

/-- A run may look at the session at any time. -/
theorem run_get (next : Session → Attempt β) (session : Session) :
    (get >>= next).run.run session = (next session).run.run session := rfl

/-- Saying something of each element of a row does not crash. -/
theorem exists_run_forIn (row : List α) (told : α → Step Unit) (session : Session) :
    ∃ after, (forIn row PUnit.unit fun a _ => do
        (liftM (told a) : Attempt Unit)
        return ForInStep.yield PUnit.unit).run.run session = (.ok PUnit.unit, after) := by
  induction row generalizing session with
  | nil => exact ⟨session, rfl⟩
  | cons a rest ih =>
    obtain ⟨after, later⟩ := ih ((told a).run session).2
    refine ⟨after, ?_⟩
    rw [List.forIn_cons, bind_assoc, run_bind, run_liftM]
    exact later

end

/-- The configuration that a run goes by is what validation makes of its arguments over the stored
configuration that they name, or over the defaults. What the run logs on the way does not matter. -/
theorem fst_configuration (arguments : Arguments) (session : Session) :
    ((configuration arguments).run.run session).1 =
      match (baseFields arguments).run.run session with
      | (.ok base, after) => arguments.outcomeOver after.disk.cwd base
      | (.error crash, _) => .error crash := by
  rw [configuration, run_bind]
  rcases (baseFields arguments).run.run session with ⟨crash | base, after⟩
  · rfl
  · dsimp only
    rw [run_get, run_bind, run_liftM, Arguments.outcomeOver]
    dsimp only
    generalize review after.disk.cwd .lenient _ = reviewed
    rcases reviewed with refusal | ⟨config, warnings⟩
    · rfl
    · obtain ⟨last, told⟩ := exists_run_forIn warnings
        (fun warning => say .warning (toString "Configuration Constraint: " ++ toString warning))
        ((Session.logAll (Config.validationEntries
          (.object (merge base arguments.overrides)))).run after).2
      change (((forIn warnings PUnit.unit _ : Attempt PUnit) >>= fun _ =>
        pure config).run.run _).1 = _
      rw [run_bind, told]
      rfl

/-- A list is no part of what says where the stored configuration is. -/
theorem baseFields_put (flag : ListFlag) (text : Option String) (arguments : Arguments) :
    baseFields (flag.put text arguments) = baseFields arguments := by
  cases flag <;> rfl

/-! ## What a command line gives -/

/-- A list that is given as a text stands under its key alone, unless the text is empty. -/
theorem get?_listField (name : String) (text : Option String) (key : String) :
    (listField name text).get? key =
      if key = name then
        (text.filter (!·.isEmpty)).map fun found => .ofStrings (splitList found)
      else none := by
  rw [listField]
  cases text.filter (!·.isEmpty) with
  | none => simp
  | some found =>
    rw [Keyed.get?_cons]
    rfl

/-- What a command line gives besides lists: texts and the number of workers. -/
def Arguments.singleFields (arguments : Arguments) : Json.Fields :=
  [("input_path", textOrNull arguments.inputPath),
    ("base_path", textOrNull arguments.basePath),
    ("include_path", textOrNull arguments.includePath),
    ("max_workers", (arguments.maxWorkers.map Json.int).getD .null)]

/-- What a command line gives if it asks for nested definitions. -/
def Arguments.nestedFields (arguments : Arguments) : Json.Fields :=
  if arguments.nested then [("include_nested_definitions", .bool true)] else []

/-- The key of a list is none of a text or of the number of workers. -/
theorem get?_singleFields (arguments : Arguments) (flag : ListFlag) :
    arguments.singleFields.get? flag.key = none := by
  cases flag <;> simp [Arguments.singleFields, ListFlag.key, Keyed.get?_cons]

/-- Nor is it the key of nested definitions. -/
theorem get?_nestedFields (arguments : Arguments) (flag : ListFlag) :
    arguments.nestedFields.get? flag.key = none := by
  rw [Arguments.nestedFields]
  cases flag <;> cases arguments.nested <;> simp [ListFlag.key, Keyed.get?_cons]

/-- What a flag gives stands in one place, and its key in no other. -/
theorem exists_overrides_put (flag : ListFlag) (arguments : Arguments) :
    ∃ front back : Json.Fields, front.get? flag.key = none ∧ back.get? flag.key = none ∧
      ∀ text, (flag.put text arguments).overrides = front ++ listField flag.key text ++ back := by
  cases flag with
  | extensions =>
    refine ⟨arguments.singleFields,
      listField "exclude_patterns" arguments.excludePatterns ++ arguments.nestedFields,
      get?_singleFields arguments .extensions, ?_, fun _ => List.append_assoc _ _ _⟩
    rw [Keyed.get?_append, get?_listField, get?_nestedFields arguments .extensions]
    rfl
  | exclude =>
    refine ⟨arguments.singleFields ++ listField "extensions" arguments.extensions,
      arguments.nestedFields, ?_, get?_nestedFields arguments .exclude, fun _ => rfl⟩
    rw [Keyed.get?_append, get?_listField, get?_singleFields arguments .exclude]
    rfl

/-- Under the key of a flag a command line gives what the flag says, and under every other key what
it gives without the flag. -/
theorem get?_overrides_put (flag : ListFlag) (text : Option String) (arguments : Arguments)
    (key : String) :
    (flag.put text arguments).overrides.get? key =
      if key = flag.key then
        (text.filter (!·.isEmpty)).map fun found => .ofStrings (splitList found)
      else (flag.put none arguments).overrides.get? key := by
  obtain ⟨front, back, early, late, place⟩ := exists_overrides_put flag arguments
  rw [place, place]
  simp only [Keyed.get?_append, get?_listField]
  by_cases asked : key = flag.key
  · simp [asked, early, late]
  · simp [asked]

/-! ## What comes of a list -/

section

variable (flag : ListFlag) (arguments : Arguments) (cwd : String) (base : Json.Fields)

/-- A text for a flag changes nothing under other keys. -/
theorem given_put_of_ne (text : Option String) {key : String} (other : key ≠ flag.key) :
    Config.given (Config.standard cwd) (merge base (flag.put text arguments).overrides) key =
      Config.given (Config.standard cwd) (merge base (flag.put none arguments).overrides) key := by
  rw [Config.given, Config.given, Config.get?_merge, Config.get?_merge, get?_overrides_put,
    if_neg other]

/-- The list that a flag gives lies over the one below, unless its text is empty. -/
theorem get?_merge_put (text : Option String) :
    (merge base (flag.put text arguments).overrides).get? flag.key =
      ((text.filter (!·.isEmpty)).map fun found => .ofStrings (splitList found)).or
        (base.get? flag.key) := by
  have reached : flag.key ∈ Config.overridableKeys := by cases flag <;> decide
  have valued : ∀ texts, isGiven (.ofStrings texts) = true := fun _ => rfl
  rw [Config.get?_merge, if_pos reached, get?_overrides_put, if_pos rfl]
  cases text.filter (!·.isEmpty) with
  | none => rfl
  | some found => simp [Option.filter, valued]

/-- The list of a validated configuration is what its check gives. -/
theorem check_gives_list (fields : Json.Fields) :
    (flag.check (Config.given (Config.standard cwd) fields flag.key)).Gives
      (flag.list (validated cwd (.object fields)).1) := by
  have made := Config.madeOf_validated cwd fields
  cases flag with
  | extensions => exact made.extensions
  | exclude => exact made.excludePatterns

/-- An empty list is validated as the default, and so is the default. -/
theorem check_gives_standard {texts : List String} (either : texts = [] ∨ texts = flag.standard) :
    (flag.check (.ofStrings texts)).Gives flag.standard := by
  rcases either with rfl | rfl <;> cases flag <;> exact ⟨[], rfl⟩

/-- Where the fields hold an empty list or the default, the default comes of them. -/
theorem list_validated {fields : Json.Fields} {texts : List String}
    (found : fields.get? flag.key = some (.ofStrings texts))
    (either : texts = [] ∨ texts = flag.standard) :
    flag.list (validated cwd (.object fields)).1 = flag.standard := by
  have gives := check_gives_list flag cwd fields
  have value : Config.given (Config.standard cwd) fields flag.key = .ofStrings texts := by
    rw [Config.given, found]
    rfl
  rw [value] at gives
  exact gives.unique (check_gives_standard flag either)

/-- Another list stands where the list of the configuration stood. -/
theorem toFields_withList (texts : List String) (config : Config) :
    (flag.withList texts config).toFields = config.toFields.set flag.key (.ofStrings texts) := by
  cases flag <;> rfl

/-- Under the key of a flag a configuration holds the list that the flag reaches. -/
theorem get?_toFields_key (config : Config) :
    config.toFields.get? flag.key = some (.ofStrings (flag.list config)) := by
  cases flag <;> rfl

/-- The empty text is no list at all. -/
theorem configOver_put_empty :
    (flag.put (some "") arguments).configOver cwd base =
      (flag.put none arguments).configOver cwd base := by
  have same : (flag.put (some "") arguments).overrides = (flag.put none arguments).overrides := by
    cases flag <;> rfl
  rw [Arguments.configOver, same, Arguments.configOver]

/-- Any other text that names nothing puts the default in the place of the list, whatever lies
below. -/
theorem configOver_put_blank {blank : String} (nothing : IsBlankList blank) (solid : blank ≠ "") :
    (flag.put (some blank) arguments).configOver cwd base =
      flag.withList flag.standard ((flag.put none arguments).configOver cwd base) := by
  have found : (merge base (flag.put (some blank) arguments).overrides).get? flag.key =
      some (.ofStrings []) := by
    rw [get?_merge_put, ← Config.splitList_eq_nil_iff.mpr nothing]
    simp [Option.filter, solid]
  have fallback : flag.list ((flag.put (some blank) arguments).configOver cwd base) =
      flag.standard := list_validated flag cwd found (.inl rfl)
  refine Config.ext_knownKeys fun key known => ?_
  rw [toFields_withList, Keyed.get?_set]
  split
  case isTrue asked => rw [asked, get?_toFields_key, fallback]
  case isFalse other =>
    have below := given_put_of_ne flag arguments cwd base (some blank) other
    exact Config.get?_validated_congr known below

/-- A list is no part of what can fail to be said. -/
theorem unspeakable_put_iff (text : Option String) :
    Unspeakable (.object (merge base (flag.put text arguments).overrides)) ↔
      Unspeakable (.object (merge base (flag.put none arguments).overrides)) := by
  have other : "max_workers" ≠ flag.key := by cases flag <;> decide
  rw [Unspeakable, Unspeakable, Config.get?_merge, Config.get?_merge, get?_overrides_put,
    if_neg other]

/-- Over the defaults the default comes of a flag that is not given. -/
theorem list_configOver_standard :
    flag.list ((flag.put none arguments).configOver cwd (Config.standard cwd).toFields) =
      flag.standard := by
  have found : (merge (Config.standard cwd).toFields (flag.put none arguments).overrides).get?
      flag.key = some (.ofStrings flag.standard) := by
    rw [get?_merge_put, get?_toFields_key]
    cases flag <;> rfl
  exact list_validated flag cwd found (.inr rfl)

end

/-- A text for a list that names nothing comes to the same as no text exactly if it is empty or if
the default is in force without it. Otherwise it puts the default in the place of the list, and
leaves everything else as it is. This holds over whatever fields lie below the command line, and so
for what a run makes of them unless it crashes, which the text has no part in. Over the defaults it
always comes to the same.

The three steps to the configuration ask different things of the text, and the last one decides. -/
theorem blank_list_covers {blank : String} (nothing : IsBlankList blank) (flag : ListFlag)
    (arguments : Arguments) :
    let without := flag.put none arguments
    let covered := flag.put (some blank) arguments
    (∀ cwd base, covered.configOver cwd base =
      if blank = "" then without.configOver cwd base
      else flag.withList flag.standard (without.configOver cwd base)) ∧
    (∀ cwd base, covered.configOver cwd base = without.configOver cwd base ↔
      blank = "" ∨ flag.list (without.configOver cwd base) = flag.standard) ∧
    (∀ cwd, covered.configOver cwd (Config.standard cwd).toFields =
      without.configOver cwd (Config.standard cwd).toFields) ∧
    (∀ session, ((configuration covered).run.run session).1 =
        ((configuration without).run.run session).1 ↔
      blank = "" ∨ ∀ config, ((configuration without).run.run session).1 = .ok config →
        flag.list config = flag.standard) := by
  intro without covered
  have outcome (cwd : String) (base : Json.Fields) : covered.configOver cwd base =
      if blank = "" then without.configOver cwd base
      else flag.withList flag.standard (without.configOver cwd base) := by
    by_cases empty : blank = ""
    · subst empty
      exact configOver_put_empty flag arguments cwd base
    · rw [if_neg empty]
      exact configOver_put_blank flag arguments cwd base nothing empty
  have exactly (cwd : String) (base : Json.Fields) :
      covered.configOver cwd base = without.configOver cwd base ↔
        blank = "" ∨ flag.list (without.configOver cwd base) = flag.standard := by
    rw [outcome]
    by_cases empty : blank = ""
    · simp [empty]
    · simp [empty, ListFlag.withList_eq_self_iff]
  refine ⟨outcome, exactly, ?_, ?_⟩
  · intro cwd
    exact (exactly _ _).mpr (.inr (list_configOver_standard flag arguments cwd))
  · intro session
    rw [fst_configuration, fst_configuration, baseFields_put, baseFields_put]
    rcases (baseFields arguments).run.run session with ⟨crash | base, after⟩
    · simp
    · have same := unspeakable_put_iff flag arguments base (some blank)
      dsimp only
      by_cases unspeakable : Unspeakable (.object (merge base without.overrides))
      · rw [outcomeOver_of_unspeakable without _ _ unspeakable,
          outcomeOver_of_unspeakable covered _ _ (same.mpr unspeakable)]
        simp
      · rw [outcomeOver_of_speakable without _ _ unspeakable,
          outcomeOver_of_speakable covered _ _ (mt same.mp unspeakable), Except.ok.injEq, exactly]
        simp

/-- Commas and blanks after `--exclude` cover the patterns of a stored configuration, and leave its
number of workers. -/
theorem blank_list_covers_patterns :
    let base : Json.Fields :=
      [("exclude_patterns", .list [.str "^dist$"]), ("max_workers", .int 4)]
    let without := (ListFlag.exclude.put none .none).configOver "/srv" base
    let covered := (ListFlag.exclude.put (some " ,\t,") .none).configOver "/srv" base
    IsBlankList " ,\t," ∧ without.excludePatterns = ["^dist$"] ∧ without.maxWorkers = 4 ∧
      covered = { without with excludePatterns := Config.defaultExcludePatterns } := by
  intro base without covered
  have nothing : IsBlankList " ,\t," := by decide
  have solid : " ,\t," ≠ "" := by decide
  have outcome := (blank_list_covers nothing .exclude .none).1 "/srv" base
  rw [if_neg solid] at outcome
  exact ⟨nothing, by decide +kernel, by decide +kernel, outcome⟩

/-- So a text that names nothing is not always the same as no text: over a stored list of extensions
it brings the default ones back. -/
theorem blank_list_resets_extensions :
    let base := Config.underlying "/srv" (some [("extensions", .list [.str ".vue"])])
    let without := (ListFlag.extensions.put none .none).configOver "/srv" base
    let covered := (ListFlag.extensions.put (some " , ") .none).configOver "/srv" base
    IsBlankList " , " ∧ without.extensions = [".vue"] ∧
      covered.extensions = [".js", ".jsx", ".ts", ".tsx"] ∧ covered ≠ without := by
  intro base without covered
  have nothing : IsBlankList " , " := by decide
  have reset : covered = { without with extensions := Config.defaultExtensions } :=
    configOver_put_blank .extensions .none "/srv" base nothing (by decide)
  have stored : without.extensions = [".vue"] := by decide +kernel
  have standard : covered.extensions = [".js", ".jsx", ".ts", ".tsx"] := by
    rw [reset]
    rfl
  refine ⟨nothing, stored, standard, ?_⟩
  intro same
  rw [same, stored] at standard
  exact absurd standard (by decide)

end ComponentAtlas.CommandLine
