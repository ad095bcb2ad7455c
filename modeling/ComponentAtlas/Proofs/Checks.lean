import ComponentAtlas.Config.Validation
import ComponentAtlas.Proofs.Trimming

/-!
# Checks of single values

Each check of a value has three laws. A lenient check refuses nothing. What a check gives is what
is expected there, if its fallback is; this holds in both modes, since strict checks only give
less often. And a value that is already as it is expected is given back as it stands, without a
warning and again in both modes.

What a check gives is said apart from the warnings that it takes. Giving runs through steps in
turn, so the laws of a check follow those of its parts.
-/

namespace ComponentAtlas.Config

open Text (Bare)

/-! ## What a check gives -/

namespace Checked

variable {α β : Type}

/-- The check refuses nothing and gives the value, with whatever warnings. -/
def Gives (checked : Checked α) (value : α) : Prop := ∃ warnings, checked = .ok (value, warnings)

/-- A check gives one value at most. -/
theorem Gives.unique {checked : Checked α} {first second : α} (one : checked.Gives first)
    (other : checked.Gives second) : first = second := by
  obtain ⟨warnings, rfl⟩ := one
  obtain ⟨more, same⟩ := other
  cases same
  rfl

/-- A value that is accepted is given. -/
@[simp] theorem gives_pure {value other : α} :
    (pure value : Checked α).Gives other ↔ value = other := by
  constructor
  · rintro ⟨warnings, same⟩
    cases same
    rfl
  · rintro rfl
    exact ⟨[], rfl⟩

/-- Two steps give what the second makes of the value that the first gives. -/
@[simp] theorem gives_bind {first : Checked α} {next : α → Checked β} {result : β} :
    (first >>= next).Gives result ↔ ∃ value, first.Gives value ∧ (next value).Gives result := by
  constructor
  · rintro ⟨warnings, whole⟩
    change first.andThen next = _ at whole
    rcases first with misfit | ⟨value, early⟩
    · cases whole
    · refine ⟨value, ⟨early, rfl⟩, ?_⟩
      rcases later : next value with misfit | ⟨last, late⟩
      · simp only [andThen, later] at whole
        cases whole
      · simp only [andThen, later] at whole
        cases whole
        exact ⟨late, rfl⟩
  · rintro ⟨value, ⟨early, rfl⟩, ⟨late, later⟩⟩
    refine ⟨early ++ late, ?_⟩
    change andThen _ next = _
    simp only [andThen, later]
    rfl

/-- After a value that took no warning, the next step is all there is. -/
@[simp] theorem pure_bind (value : α) (next : α → Checked β) :
    (pure value >>= next : Checked β) = next value := by
  change andThen (accept value) next = _
  rcases later : next value with misfit | ⟨last, late⟩ <;>
    simp only [andThen, accept, later, List.nil_append] <;> rfl

end Checked

/-- A warning is reported and gives nothing more. -/
@[simp] theorem gives_warn (warning : Warning) (value : Unit) : (warn warning).Gives value :=
  ⟨[warning], rfl⟩

/-- A value that does not fit gives the fallback, unless it is refused. -/
@[simp] theorem gives_misfit {α : Type} {mode : Mode} {fallback value : α} {found : Misfit} :
    (misfit mode fallback found).Gives value ↔ mode = .lenient ∧ fallback = value := by
  cases mode with
  | lenient =>
    constructor
    · rintro ⟨warnings, same⟩
      cases same
      exact ⟨rfl, rfl⟩
    · rintro ⟨-, rfl⟩
      exact ⟨_, rfl⟩
  | strict =>
    constructor
    · rintro ⟨warnings, same⟩
      cases same
    · rintro ⟨impossible, -⟩
      cases impossible

/-! ## Texts -/

variable {mode : Mode} {field fallback text : String} {value : Json}

/-- No text is refused, nor what stands in its place. -/
theorem exists_gives_checkText (field fallback : String) (value : Json) :
    ∃ text, (checkText .lenient field fallback value).Gives text := by
  cases value <;> simp [checkText]

/-- What is checked as a text says something and has no blanks around it, or is the fallback. -/
theorem fallback_or_solid_of_checkText
    (gives : (checkText mode field fallback value).Gives text) :
    text = fallback ∨ (text ≠ "" ∧ Bare text) := by
  cases value with
  | str given =>
    simp only [checkText, Checked.gives_pure] at gives
    subst gives
    split
    case isTrue => exact .inl rfl
    case isFalse left => exact .inr ⟨by simpa using left, Text.bare_trim given⟩
  | null =>
    simp only [checkText, Checked.gives_pure] at gives
    exact .inl gives.symm
  | _ =>
    simp only [checkText, gives_misfit] at gives
    exact .inl gives.2.symm

/-- What is checked as a text is trimmed, if the fallback is. -/
theorem bare_of_checkText (gives : (checkText mode field fallback value).Gives text)
    (bare : Bare fallback) : Bare text := by
  rcases fallback_or_solid_of_checkText gives with rfl | ⟨-, trimmed⟩
  · exact bare
  · exact trimmed

/-- What is checked as a text is not empty, unless the fallback is. -/
theorem ne_empty_of_checkText (gives : (checkText mode field fallback value).Gives text)
    (solid : fallback ≠ "") : text ≠ "" := by
  rcases fallback_or_solid_of_checkText gives with rfl | ⟨filled, -⟩
  · exact solid
  · exact filled

/-- A bare text is given back. An empty one is when the fallback is empty as well. -/
theorem checkText_of_bare (bare : Bare text) (solid : text = "" → fallback = "") :
    checkText mode field fallback (.str text) = pure text := by
  simp only [checkText, bare.trim_eq]
  split
  case isTrue blank =>
    have empty : text = "" := by simpa using blank
    rw [solid empty, empty]
  case isFalse => rfl

/-- A text with slashes in the place of backslashes. -/
def checkPosix (mode : Mode) (field fallback : String) (value : Json) : Checked String := do
  return Path.toPosix (← checkText mode field fallback value)

/-- No backslash is left in a path whose separators are slashes. -/
theorem not_mem_toPosix (path : String) : '\\' ∉ (Path.toPosix path).toList := by
  rw [Path.toPosix, String.toList_ofList, List.mem_map]
  rintro ⟨c, -, same⟩
  split at same
  case isTrue => exact absurd same (by decide)
  case isFalse other => exact other (by simp [same])

/-- Neither a slash nor a backslash is a blank, so a trimmed path stays trimmed. -/
theorem bare_toPosix {path : String} (bare : Bare path) : Bare (Path.toPosix path) := by
  apply bare.map
  intro c solid
  split
  · decide
  · exact solid

/-- Separators are replaced and not dropped. -/
theorem toPosix_ne_empty {path : String} (solid : path ≠ "") : Path.toPosix path ≠ "" := by
  simpa [Path.toPosix] using solid

/-! ## Truth values -/

/-- No truth value is refused, nor what stands in its place. -/
theorem exists_gives_checkTruth (field : String) (fallback : Bool) (value : Json) :
    ∃ truth, (checkTruth .lenient field fallback value).Gives truth := by
  cases value with
  | null => exact ⟨fallback, by simp [checkTruth]⟩
  | bool truth => exact ⟨truth, by simp [checkTruth]⟩
  | _ =>
    simp only [checkTruth]
    generalize convertTruth? field _ = converted
    rcases converted with _ | ⟨truth, warning⟩ <;> simp

/-! ## Whole numbers -/

/-- A number is read, or none is, and nothing is refused over it. -/
theorem exists_gives_readCount (field : String) (value : Json) :
    ∃ number, (readCount .lenient field value).Gives number := by
  cases value with
  | str text =>
    unfold readCount
    dsimp only
    generalize Text.readInteger? (Text.trim text) = read
    cases read <;> simp
  | int number => exact ⟨some number, [], rfl⟩
  | _ => exact ⟨none, [], rfl⟩

/-- What is made of a number that was read, or of none. -/
def acceptCount (mode : Mode) (field : String) (fallback : Nat) (value : Json) :
    Option Int → Checked Nat
  | some number =>
    if 1 ≤ number then pure number.toNat
    else misfit mode fallback (.noCount field value.quoted?)
  | none => misfit mode fallback (.noCount field value.quoted?)

/-- From a value that is there a number is read first. -/
theorem checkCount_eq_bind {fallback : Nat} (present : value ≠ .null) :
    checkCount mode field fallback value =
      readCount mode field value >>= acceptCount mode field fallback value := by
  cases value with
  | null => exact absurd rfl present
  | _ => rfl

/-- A value that is there gives the number that is read from it, if that is from one on, and the
fallback otherwise, unless it is refused. -/
theorem gives_checkCount_iff {fallback count : Nat} (present : value ≠ .null) :
    (checkCount mode field fallback value).Gives count ↔
      ∃ read, (readCount mode field value).Gives read ∧
        ((∃ number, read = some number ∧ 1 ≤ number ∧ number.toNat = count) ∨
          (mode = .lenient ∧ fallback = count ∧ ∀ number, read = some number → ¬ 1 ≤ number)) := by
  rw [checkCount_eq_bind present, Checked.gives_bind]
  apply exists_congr
  intro read
  apply and_congr_right
  intro _
  cases read with
  | none => simp [acceptCount]
  | some number =>
    by_cases positive : 1 ≤ number
    · have least : ¬ number < 1 := by omega
      simp [acceptCount, positive, least]
    · have below : number < 1 := by omega
      simp [acceptCount, positive, below]

/-- No number of whatever sign is refused, nor what stands in its place. -/
theorem exists_gives_checkCount (field : String) (fallback : Nat) (value : Json) :
    ∃ count, (checkCount .lenient field fallback value).Gives count := by
  by_cases present : value = .null
  · exact ⟨fallback, by simp [present, checkCount]⟩
  · obtain ⟨read, gives⟩ := exists_gives_readCount field value
    by_cases positive : ∃ number, read = some number ∧ 1 ≤ number
    · obtain ⟨number, found, least⟩ := positive
      exact ⟨number.toNat,
        (gives_checkCount_iff present).mpr ⟨read, gives, .inl ⟨number, found, least, rfl⟩⟩⟩
    · refine ⟨fallback, (gives_checkCount_iff present).mpr ⟨read, gives, .inr ⟨rfl, rfl, ?_⟩⟩⟩
      exact fun number found least => positive ⟨number, found, least⟩

/-- What is checked as a whole number is one from one on, if the fallback is. -/
theorem positive_of_checkCount {fallback count : Nat}
    (gives : (checkCount mode field fallback value).Gives count) (positive : 1 ≤ fallback) :
    1 ≤ count := by
  by_cases present : value = .null
  · simp only [present, checkCount, Checked.gives_pure] at gives
    exact gives ▸ positive
  · obtain ⟨read, -, ⟨number, -, least, rfl⟩ | ⟨-, rfl, -⟩⟩ :=
      (gives_checkCount_iff present).mp gives
    · omega
    · exact positive

/-- A whole number from one on is given back. -/
theorem checkCount_of_positive {fallback count : Nat} (positive : 1 ≤ count) :
    checkCount mode field fallback (.int count) = pure count := by
  have read : readCount mode field (.int count) = pure (some (count : Int)) := rfl
  have least : (1 : Int) ≤ count := by omega
  simp [checkCount, read, least]

/-! ## Lists of texts -/

/-- Texts that say something, without blanks around them. -/
def Entries (texts : List String) : Prop := ∀ text ∈ texts, text ≠ "" ∧ Bare text

/-- That texts say something is decided text by text. -/
instance (texts : List String) : Decidable (Entries texts) :=
  inferInstanceAs (Decidable (∀ text ∈ texts, text ≠ "" ∧ Bare text))

/-- Of texts of which the blank ones are dropped, those are left that say something. -/
theorem entries_cons_trim {texts : List String} (entries : Entries texts) (given : String) :
    Entries (if (Text.trim given).isEmpty then texts else Text.trim given :: texts) := by
  split
  case isTrue => exact entries
  case isFalse left =>
    intro text present
    rcases List.mem_cons.mp present with rfl | later
    · exact ⟨by simpa using left, Text.bare_trim given⟩
    · exact entries text later

/-- Items that are no texts are discarded and not refused. -/
theorem exists_gives_checkItems (field : String) (index : Nat) (items : List Json) :
    ∃ texts, (checkItems .lenient field index items).Gives texts := by
  induction items generalizing index with
  | nil => exact ⟨[], by simp [checkItems]⟩
  | cons item rest ih =>
    obtain ⟨texts, gives⟩ := ih (index + 1)
    cases item with
    | str text => exact ⟨_, by simpa [checkItems] using ⟨texts, gives, rfl⟩⟩
    | _ => exact ⟨texts, by simpa [checkItems] using gives⟩

/-- The texts that are left of the items say something. -/
theorem entries_of_checkItems {index : Nat} {items : List Json} {texts : List String}
    (gives : (checkItems mode field index items).Gives texts) : Entries texts := by
  induction items generalizing index texts with
  | nil =>
    simp only [checkItems, Checked.gives_pure] at gives
    subst gives
    exact List.forall_mem_nil _
  | cons item rest ih =>
    cases item with
    | str text =>
      simp only [checkItems, Checked.gives_bind, Checked.gives_pure] at gives
      obtain ⟨later, first, rfl⟩ := gives
      exact entries_cons_trim (ih first) text
    | _ =>
      simp only [checkItems, Checked.gives_bind] at gives
      obtain ⟨_, _, gives⟩ := gives
      exact ih gives

/-- Items that are texts and say something are all kept as they are. -/
theorem checkItems_of_entries {texts : List String} (entries : Entries texts) (index : Nat) :
    checkItems mode field index (texts.map .str) = pure texts := by
  induction texts generalizing index with
  | nil => rfl
  | cons text rest ih =>
    obtain ⟨solid, bare⟩ := entries text (by simp)
    have later : Entries rest := fun other present => entries other (List.mem_cons_of_mem _ present)
    simp [checkItems, ih later, bare.trim_eq, solid]

/-- The pieces that are left between commas say something. -/
theorem entries_splitList (text : String) : Entries (splitList text) := by
  intro piece present
  simp only [splitList, List.mem_filter, List.mem_map] at present
  obtain ⟨⟨given, -, rfl⟩, left⟩ := present
  exact ⟨by simpa using left, Text.bare_trim given⟩

/-- No list of texts is refused, nor what stands in its place. -/
theorem exists_gives_checkTexts (field : String) (fallback : List String) (value : Json) :
    ∃ texts, (checkTexts .lenient field fallback value).Gives texts := by
  cases value with
  | list items =>
    obtain ⟨texts, gives⟩ := exists_gives_checkItems field 0 items
    exact ⟨_, by simpa [checkTexts] using ⟨texts, gives, rfl⟩⟩
  | str text =>
    simp only [checkTexts]
    split <;> simp
  | _ => simp [checkTexts]

/-- What is checked as a list of texts holds texts that say something, if the fallback does. -/
theorem entries_of_checkTexts {fallback texts : List String}
    (gives : (checkTexts mode field fallback value).Gives texts)
    (entries : fallback ≠ [] ∧ Entries fallback) : texts ≠ [] ∧ Entries texts := by
  cases value with
  | null =>
    simp only [checkTexts, Checked.gives_pure] at gives
    exact gives ▸ entries
  | list items =>
    simp only [checkTexts, Checked.gives_bind, Checked.gives_pure] at gives
    obtain ⟨found, given, rfl⟩ := gives
    split
    case isTrue => exact entries
    case isFalse left => exact ⟨by simpa using left, entries_of_checkItems given⟩
  | str text =>
    cases mode with
    | strict => simp [checkTexts] at gives
    | lenient =>
      simp only [checkTexts] at gives
      split at gives
      case isTrue =>
        simp only [Checked.gives_pure] at gives
        exact gives ▸ entries
      case isFalse left =>
        simp only [Checked.gives_bind, Checked.gives_pure] at gives
        obtain ⟨-, -, rfl⟩ := gives
        exact ⟨by simpa using left, entries_splitList text⟩
  | _ =>
    simp only [checkTexts, gives_misfit] at gives
    exact gives.2 ▸ entries

/-- Texts that say something are given back. -/
theorem checkTexts_of_entries {fallback texts : List String} (filled : texts ≠ [])
    (entries : Entries texts) :
    checkTexts mode field fallback (.ofStrings texts) = pure texts := by
  simp [checkTexts, Json.ofStrings, checkItems_of_entries entries, filled]

/-! ## Extensions -/

/-- An extension starts with a dot. -/
def Dotted (extension : String) : Prop := extension.toList.head? = some '.'

/-- A dot is looked for in front. -/
instance (extension : String) : Decidable (Dotted extension) :=
  inferInstanceAs (Decidable (extension.toList.head? = some '.'))

/-- An extension without a dot gets one and is not refused. -/
theorem exists_gives_checkDots (extensions : List String) :
    ∃ dotted, (checkDots .lenient extensions).Gives dotted := by
  induction extensions with
  | nil => exact ⟨[], by simp [checkDots]⟩
  | cons extension rest ih =>
    obtain ⟨dotted, gives⟩ := ih
    simp only [checkDots]
    split
    · exact ⟨dotted, gives⟩
    · split
      · exact ⟨_, by simpa using ⟨dotted, gives, rfl⟩⟩
      · exact ⟨_, by simpa using ⟨dotted, gives, rfl⟩⟩

/-- The extensions that are left say something and start with a dot. -/
theorem dotted_of_checkDots {extensions dotted : List String}
    (gives : (checkDots mode extensions).Gives dotted) :
    Entries dotted ∧ ∀ extension ∈ dotted, Dotted extension := by
  induction extensions generalizing dotted with
  | nil =>
    simp only [checkDots, Checked.gives_pure] at gives
    subst gives
    exact ⟨List.forall_mem_nil _, List.forall_mem_nil _⟩
  | cons extension rest ih =>
    simp only [checkDots] at gives
    split at gives
    case isTrue => exact ih gives
    case isFalse left =>
      have solid : Text.trim extension ≠ "" := by simpa using left
      have bare := Text.bare_trim extension
      split at gives
      case isTrue dot =>
        simp only [Checked.gives_bind, Checked.gives_pure] at gives
        obtain ⟨later, given, rfl⟩ := gives
        obtain ⟨entries, dots⟩ := ih given
        exact ⟨List.forall_mem_cons.mpr ⟨⟨solid, bare⟩, entries⟩,
          List.forall_mem_cons.mpr ⟨by simpa [Dotted] using dot, dots⟩⟩
      case isFalse =>
        cases mode with
        | strict => simp at gives
        | lenient =>
          simp only [Checked.gives_bind, Checked.gives_pure] at gives
          obtain ⟨-, -, later, given, rfl⟩ := gives
          obtain ⟨entries, dots⟩ := ih given
          have point : Bare "." := Text.bare_iff_trim_eq.mpr (by decide)
          exact ⟨List.forall_mem_cons.mpr ⟨⟨by simp, point.append bare (by simp) solid⟩, entries⟩,
            List.forall_mem_cons.mpr ⟨by simp [Dotted], dots⟩⟩

/-- Extensions that start with a dot are given back. -/
theorem checkDots_of_dotted {extensions : List String} (entries : Entries extensions)
    (dotted : ∀ extension ∈ extensions, Dotted extension) :
    checkDots mode extensions = pure extensions := by
  induction extensions with
  | nil => rfl
  | cons extension rest ih =>
    obtain ⟨⟨solid, bare⟩, entries⟩ := List.forall_mem_cons.mp entries
    obtain ⟨dot, dots⟩ := List.forall_mem_cons.mp dotted
    have head : extension.toList.head? = some '.' := dot
    simp [checkDots, bare.trim_eq, solid, head, ih entries dots]

/-- A list of extensions: a list of texts to which dots are added. -/
def checkExtensions (mode : Mode) (field : String) (fallback : List String) (value : Json) :
    Checked (List String) := do
  let texts ← checkTexts mode field fallback value
  let dotted ← checkDots mode texts
  return if dotted.isEmpty then defaultExtensions else dotted

/-- No list of extensions is refused, nor what stands in its place. -/
theorem exists_gives_checkExtensions (field : String) (fallback : List String) (value : Json) :
    ∃ extensions, (checkExtensions .lenient field fallback value).Gives extensions := by
  obtain ⟨texts, given⟩ := exists_gives_checkTexts field fallback value
  obtain ⟨dotted, dots⟩ := exists_gives_checkDots texts
  exact ⟨_, by simpa [checkExtensions] using ⟨texts, given, dotted, dots, rfl⟩⟩

end ComponentAtlas.Config
