import ComponentAtlas.Proofs.Validation

/-!
# Strict and lenient validation side by side

Both modes run the same checks in the same order and differ only where a value does not fit. There
strict validation stops, and lenient validation puts something in place of the value and says so,
with one exception: a text that stands for a list and has nothing between its commas is passed over
without a word. So strict validation stops exactly if lenient validation has something to say, or
passes such a text over. That a field is not known is said in both modes and stops neither.

Two checks are parallel when this holds of them, where the exception is a parameter. Steps in turn
are parallel when each is, with the exceptions of both; so the law of a whole configuration is that
of its fields.

A complaint has to be put into words before either mode can act on it. The count of workers may hold
an integer that is too long to be shown; there is no complaint then in either mode, and both break
off.
-/

namespace ComponentAtlas.Config

/-- The warning that a field is not known. -/
def Warning.isUnknownField : Warning → Bool
  | .unknownField _ => true
  | _ => false

/-- The letter that a warning starts with. -/
def Warning.initial : Warning → Char
  | .replaced _ => 'I'
  | .unknownField _ => 'U'
  | .dotAdded _ _ => 'E'
  | _ => 'F'

/-- A text starts with the first of the parts that it is put together from. -/
theorem prefix_toList_append (front back : String) : front.toList <+: (front ++ back).toList := by
  rw [String.toList_append]
  exact List.prefix_append _ _

/-- So it starts with the first letter of that part. -/
theorem head?_toList_append {front back : String} {c : Char}
    (starts : front.toList.head? = some c) : (front ++ back).toList.head? = some c := by
  rw [String.toList_append, List.head?_append, starts, Option.some_or]

/-- Every misfit is told by a sentence of the same beginning. -/
theorem Misfit.head?_message? {misfit : Misfit} {message : String}
    (said : misfit.message? = some message) : message.toList.head? = some 'I' := by
  cases misfit with
  | noCount field shown =>
    obtain ⟨shown, rfl, rfl⟩ := Option.map_eq_some_iff.mp said
    (repeat apply head?_toList_append); decide
  | _ =>
    cases said
    (repeat apply head?_toList_append); decide

/-- The first letter of a warning tells which kind of warning it is. -/
theorem Warning.head?_message? {warning : Warning} {message : String}
    (said : warning.message? = some message) :
    message.toList.head? = some warning.initial := by
  cases warning with
  | replaced misfit =>
    obtain ⟨words, spoken, rfl⟩ := Option.map_eq_some_iff.mp said
    exact head?_toList_append (head?_toList_append (Misfit.head?_message? spoken))
  | truthFromNumber field shown =>
    obtain ⟨shown, rfl, rfl⟩ := Option.map_eq_some_iff.mp said
    (repeat apply head?_toList_append); rfl
  | _ =>
    cases said
    (repeat apply head?_toList_append); rfl

/-- The warning that a field is not known is told by its first words. -/
theorem isUnknownField_iff_message {warning : Warning} {message : String}
    (said : warning.message? = some message) :
    warning.isUnknownField = true ↔ "Unknown field".toList <+: message.toList := by
  constructor
  · intro unknown
    cases warning with
    | unknownField name =>
      cases said
      have words : "Unknown field".toList <+: "Unknown field '".toList := by decide
      exact words.trans ((prefix_toList_append _ name).trans (prefix_toList_append _ "' ignored."))
    | _ => cases unknown
  · rintro ⟨rest, whole⟩
    have letter := Warning.head?_message? said
    rw [← whole] at letter
    cases warning with
    | unknownField name => rfl
    | _ => cases letter

/-- Something else than a field that is not known is warned of exactly if it is said so. -/
theorem exists_message_iff {warnings : List Warning} {messages : List String}
    (said : warnings.mapM Warning.message? = some messages) :
    (∃ message ∈ messages, ¬ "Unknown field".toList <+: message.toList) ↔
      ∃ warning ∈ warnings, warning.isUnknownField = false := by
  have paired := mapM_message?_eq_some_iff.mp said
  have other {warning : Warning} {message : String} (spoken : warning.message? = some message) :
      ¬ "Unknown field".toList <+: message.toList ↔ warning.isUnknownField = false := by
    rw [← isUnknownField_iff_message spoken, Bool.not_eq_true]
  constructor
  · rintro ⟨message, member, told⟩
    have there : some message ∈ warnings.map Warning.message? :=
      paired ▸ List.mem_map_of_mem member
    obtain ⟨warning, given, spoken⟩ := List.mem_map.mp there
    exact ⟨warning, given, (other spoken).mp told⟩
  · rintro ⟨warning, given, told⟩
    have there : warning.message? ∈ messages.map some := paired ▸ List.mem_map_of_mem given
    obtain ⟨message, member, spoken⟩ := List.mem_map.mp there
    exact ⟨message, member, (other spoken.symm).mpr told⟩

/-! ## Parallel checks -/

variable {α β : Type} {silent other : Prop}

/-- A value with warnings goes on to the next step, which may warn of more. -/
theorem Checked.ok_bind (value : α) (warnings : List Warning) (next : α → Checked β) :
    bind (m := Checked) (.ok (value, warnings)) next = match next value with
      | .error misfit => .error misfit
      | .ok (result, more) => .ok (result, warnings ++ more) := rfl

/-- What a strict check and a lenient one make of a value. Either both accept it and say nothing
but which fields are not known, or the strict one refuses it, and the lenient one says something
else or is silent for a reason. -/
inductive Parallel (silent : Prop) : Checked α → Checked α → Prop
  | accepted {value : α} {warnings : List Warning}
      (quiet : ∀ warning ∈ warnings, warning.isUnknownField = true) (reported : ¬ silent) :
      Parallel silent (.ok (value, warnings)) (.ok (value, warnings))
  | refused {misfit : Misfit} {value : α} {warnings : List Warning}
      (noticed : (∃ warning ∈ warnings, warning.isUnknownField = false) ∨ silent) :
      Parallel silent (.error misfit) (.ok (value, warnings))

namespace Parallel

/-- The reason for silence may be told otherwise. -/
theorem congr {strict lenient : Checked α} (parallel : Parallel silent strict lenient)
    (same : silent ↔ other) : Parallel other strict lenient := propext same ▸ parallel

/-- A value that fits is accepted in both modes. -/
theorem pure (value : α) : Parallel False (pure value) (pure value) :=
  .accepted (List.forall_mem_nil _) not_false

/-- A value that does not fit is refused, or replaced with a warning. -/
theorem misfit (fallback : α) (found : Misfit) :
    Parallel False (misfit .strict fallback found) (misfit .lenient fallback found) :=
  .refused (.inl ⟨_, List.mem_singleton_self _, rfl⟩)

/-- Steps in turn are parallel, if the second ones are for every value. -/
theorem bind {strict lenient : Checked α} {strictly leniently : α → Checked β}
    (first : Parallel silent strict lenient)
    (second : ∀ value, Parallel other (strictly value) (leniently value)) :
    Parallel (silent ∨ other) (strict >>= strictly) (lenient >>= leniently) := by
  cases first with
  | @accepted value warnings quiet reported =>
    have later := second value
    rw [Checked.ok_bind, Checked.ok_bind]
    generalize strictly value = left, leniently value = right at later
    cases later with
    | accepted calm said =>
      refine .accepted ?_ (not_or.mpr ⟨reported, said⟩)
      exact List.forall_mem_append.mpr ⟨quiet, calm⟩
    | refused noticed =>
      apply refused
      rcases noticed with ⟨warning, member, told⟩ | reason
      · exact .inl ⟨warning, List.mem_append_right _ member, told⟩
      · exact .inr (.inr reason)
  | @refused misfit value warnings noticed =>
    have later := second value
    rw [Checked.ok_bind]
    generalize strictly value = left, leniently value = right at later
    have onward : ∃ result more, right = .ok (result, more) := by
      cases later with
      | accepted => exact ⟨_, _, rfl⟩
      | refused => exact ⟨_, _, rfl⟩
    obtain ⟨result, more, rfl⟩ := onward
    apply refused
    rcases noticed with ⟨warning, member, told⟩ | reason
    · exact .inl ⟨warning, List.mem_append_left _ member, told⟩
    · exact .inr (.inl reason)

/-- A value that does not fit is refused, or made to fit with a warning. -/
theorem mended {found : Misfit} {warning : Warning} {strict lenient : Checked α}
    (other : warning.isUnknownField = false) (onward : Parallel silent strict lenient) :
    Parallel silent (.error found) (warn warning >>= fun _ => lenient) := by
  have first : Parallel False (.error found : Checked Unit) (warn warning) :=
    .refused (.inl ⟨warning, List.mem_singleton_self _, other⟩)
  have whole : Parallel (False ∨ silent) ((.error found : Checked Unit) >>= fun _ => strict)
      (warn warning >>= fun _ => lenient) := first.bind fun _ => onward
  exact whole.congr (by simp)

end Parallel

/-! ## Fields -/

variable (field : String)

/-- Blank texts take the fallback in both modes, and what is no text fits in neither. -/
theorem parallel_checkText (fallback : String) (value : Json) :
    Parallel False (checkText .strict field fallback value)
      (checkText .lenient field fallback value) := by
  cases value with
  | null => exact .pure fallback
  | str text => exact .pure _
  | _ => exact .misfit fallback _

/-- That a truth value was converted is no word about unknown fields. -/
theorem isUnknownField_of_convertTruth? {field : String} {value : Json} {truth : Bool}
    {warning : Warning} (found : convertTruth? field value = some (truth, warning)) :
    warning.isUnknownField = false := by
  cases value <;>
    (simp only [convertTruth?, Option.map_eq_some_iff, Prod.mk.injEq] at found
     obtain ⟨_, _, _, rfl⟩ := found
     rfl)

/-- What lenient validation converts, strict validation refuses. -/
theorem parallel_checkTruth (fallback : Bool) (value : Json) :
    Parallel False (checkTruth .strict field fallback value)
      (checkTruth .lenient field fallback value) := by
  cases value with
  | null => exact .pure fallback
  | bool truth => exact .pure truth
  | _ =>
    simp only [checkTruth]
    split
    case h_1 truth warning _ found =>
      exact .mended (isUnknownField_of_convertTruth? found) (.pure truth)
    case h_2 => exact .misfit fallback _

/-- A number below one is refused or replaced, as is no number at all. -/
theorem parallel_acceptCount (fallback : Nat) (value : Json) (read : Option Int) :
    Parallel False (acceptCount .strict field fallback value read)
      (acceptCount .lenient field fallback value read) := by
  cases read with
  | none => exact .misfit fallback _
  | some number =>
    simp only [acceptCount]
    split
    case isTrue => exact .pure _
    case isFalse => exact .misfit fallback _

/-- A number that is read from a text is warned of before it is looked at. -/
theorem parallel_checkCount (fallback : Nat) (value : Json) :
    Parallel False (checkCount .strict field fallback value)
      (checkCount .lenient field fallback value) := by
  cases value with
  | null => exact .pure fallback
  | int number =>
    have read := Parallel.pure (some number)
    exact (read.bind (parallel_acceptCount field fallback (.int number))).congr or_self_iff
  | str text =>
    unfold checkCount readCount
    dsimp only
    generalize Text.readInteger? (Text.trim text) = read
    cases read with
    | none => exact parallel_acceptCount field fallback (.str text) none
    | some number =>
      exact .mended rfl (parallel_acceptCount field fallback (.str text) (some number))
  | _ => exact .misfit fallback _

/-- A text of which the pieces between commas are all blank. -/
def IsBlankList (text : String) : Prop := ∀ piece ∈ text.splitOn ",", Text.trim piece = ""

/-- Nothing is left between the commas exactly if all pieces are blank. -/
theorem splitList_eq_nil_iff {text : String} : splitList text = [] ↔ IsBlankList text := by
  simp [splitList, IsBlankList]

/-- An item that is no text is refused, or discarded with a warning. -/
theorem parallel_checkItems (index : Nat) (items : List Json) :
    Parallel False (checkItems .strict field index items)
      (checkItems .lenient field index items) := by
  induction items generalizing index with
  | nil => exact .pure []
  | cons item rest ih =>
    cases item with
    | str text =>
      simp only [checkItems]
      exact ((ih (index + 1)).bind fun _ => .pure _).congr or_self_iff
    | _ =>
      simp only [checkItems]
      exact ((Parallel.misfit () _).bind fun _ => ih (index + 1)).congr or_self_iff

/-- Only a text without a piece that says something is passed over in silence. -/
theorem parallel_checkTexts (fallback : List String) (value : Json) :
    Parallel (∃ text, value = .str text ∧ IsBlankList text)
      (checkTexts .strict field fallback value) (checkTexts .lenient field fallback value) := by
  cases value with
  | null => exact (Parallel.pure fallback).congr (by simp)
  | list items =>
    exact ((parallel_checkItems field 0 items).bind fun _ => .pure _).congr (by simp)
  | str text =>
    have nothing : (splitList text).isEmpty ↔ IsBlankList text := by
      rw [List.isEmpty_iff, splitList_eq_nil_iff]
    simp only [checkTexts]
    split
    case isTrue blank => exact .refused (.inr ⟨text, rfl, nothing.mp blank⟩)
    case isFalse left =>
      exact (Parallel.mended rfl (.pure (splitList text))).congr (by simpa [← nothing] using left)
  | _ => exact (Parallel.misfit fallback _).congr (by simp)

/-- A missing dot is refused, or put in front with a warning. -/
theorem parallel_checkDots (extensions : List String) :
    Parallel False (checkDots .strict extensions) (checkDots .lenient extensions) := by
  induction extensions with
  | nil => exact .pure []
  | cons extension rest ih =>
    have further : ∀ first, Parallel False
        (do return first :: (← checkDots .strict rest))
        (do return first :: (← checkDots .lenient rest)) :=
      fun first => (ih.bind fun _ => .pure _).congr or_self_iff
    simp only [checkDots]
    split
    case isTrue => exact ih
    case isFalse =>
      split
      case isTrue => exact further _
      case isFalse => exact .mended rfl (further _)

/-! ## Whole configurations -/

/-- Fields that are not known are reported in both modes. -/
theorem parallel_unknownFields (names : List String) :
    Parallel False (names.forM fun name => warn (.unknownField name))
      (names.forM fun name => warn (.unknownField name)) := by
  induction names with
  | nil => exact .pure ()
  | cons name rest ih =>
    have first : Parallel False (warn (.unknownField name)) (warn (.unknownField name)) :=
      .accepted (by simp [Warning.isUnknownField]) not_false
    exact (first.bind fun _ => ih).congr or_self_iff

/-- The keys of the fields that hold lists of texts. -/
def listKeys : List String :=
  ["extensions", "exclude_patterns", "ref_forwarding_wrappers", "framework_namespaces",
    "component_base_classes"]

/-- A text without a piece that says something stands under a key. -/
def HoldsBlankList (fields : Json.Fields) (key : String) : Prop :=
  ∃ text, fields.get? key = some (.str text) ∧ IsBlankList text

/-- By default a list of texts is given as a list; so a text that is given in its place stands in
the fields. -/
theorem given_eq_str_iff {cwd key text : String} {fields : Json.Fields} (list : key ∈ listKeys) :
    given (standard cwd) fields key = .str text ↔ fields.get? key = some (.str text) := by
  have listed : ∃ texts, (standard cwd).toFields.get? key = some (.ofStrings texts) := by
    simp only [listKeys, List.mem_cons, List.not_mem_nil, or_false] at list
    rcases list with rfl | rfl | rfl | rfl | rfl <;> exact ⟨_, rfl⟩
  obtain ⟨texts, listed⟩ := listed
  cases found : fields.get? key with
  | none => simp [given, found, listed, Json.ofStrings]
  | some value => simp [given, found]

/-- For the field of a list, the reason for silence is found among the fields. -/
theorem parallel_list {cwd key : String} {fields : Json.Fields} (list : key ∈ listKeys)
    (fallback : List String) :
    Parallel (HoldsBlankList fields key)
      (checkTexts .strict key fallback (given (standard cwd) fields key))
      (checkTexts .lenient key fallback (given (standard cwd) fields key)) := by
  apply (parallel_checkTexts key fallback _).congr
  exact exists_congr fun text => and_congr_left fun _ => given_eq_str_iff list

/-- Only a field for a list of texts is passed over in silence. -/
theorem parallel_validateFields (cwd : String) (fields : Json.Fields) :
    Parallel (∃ key ∈ listKeys, HoldsBlankList fields key)
      (validateFields cwd .strict fields) (validateFields cwd .lenient fields) := by
  unfold validateFields
  refine Parallel.congr (.bind (parallel_unknownFields _) fun _ =>
    .bind (parallel_checkText _ _ _) fun _ => .bind (parallel_checkText _ _ _) fun _ =>
    .bind (parallel_checkText _ _ _) fun _ => .bind (parallel_checkTruth _ _ _) fun _ =>
    .bind (parallel_list (by decide) _) fun _ => .bind (parallel_list (by decide) _) fun _ =>
    .bind (parallel_list (by decide) _) fun _ => .bind (parallel_list (by decide) _) fun _ =>
    .bind (parallel_list (by decide) _) fun _ => .bind (parallel_checkCount _ _ _) fun _ =>
    .bind (parallel_checkDots _) fun _ => .pure _) ?_
  simp [listKeys]

/-- Among the fields of an object a text without a piece that says something stands for a list. -/
def HasBlankList : Json → Prop
  | .object fields => ∃ key ∈ listKeys, HoldsBlankList fields key
  | _ => False

/-- Only of an object a field can be passed over in silence. -/
theorem parallel_validate (cwd : String) (raw : Json) :
    Parallel (HasBlankList raw) (validate cwd .strict raw) (validate cwd .lenient raw) := by
  cases raw with
  | object fields => exact parallel_validateFields cwd fields
  | _ => exact .misfit _ _

/-- What strict checks accept is said as lenient validation says it. -/
theorem review_strict_of_parallel {cwd : String} {raw : Json} {config : Config}
    {warnings : List Warning} (valid : validate cwd .lenient raw = .ok (config, warnings)) :
    ((∃ refusal, review cwd .strict raw = .error refusal) ∧
      ((∃ warning ∈ warnings, warning.isUnknownField = false) ∨ HasBlankList raw)) ∨
    (review cwd .strict raw = review cwd .lenient raw ∧
      ¬ ((∃ warning ∈ warnings, warning.isUnknownField = false) ∨ HasBlankList raw)) := by
  have parallel := parallel_validate cwd raw
  rw [valid] at parallel
  generalize strict : validate cwd .strict raw = result at parallel
  cases parallel with
  | accepted quiet reported =>
    refine .inr ⟨by rw [review, review, strict, valid], not_or.mpr ⟨?_, reported⟩⟩
    rintro ⟨warning, member, told⟩
    simp [quiet warning member] at told
  | @refused misfit _ _ noticed =>
    exact .inl ⟨⟨.ofMisfit misfit, by rw [review, strict]⟩, noticed⟩

/-- Over a value that neither fits nor can be shown, both modes fail. -/
theorem review_of_unspeakable (cwd : String) {raw : Json} (unspeakable : Unspeakable raw) :
    review cwd .lenient raw = .error .unspeakable ∧
      ∃ refusal, review cwd .strict raw = .error refusal := by
  have lenient := (review_lenient_eq_error_iff cwd).mpr ⟨unspeakable, rfl⟩
  obtain ⟨config, warnings, valid, -⟩ := worded_validate cwd raw
  refine ⟨lenient, ?_⟩
  rcases review_strict_of_parallel valid with ⟨failed, -⟩ | ⟨same, -⟩
  · exact failed
  · exact ⟨.unspeakable, same.trans lenient⟩

/-- Unless a value neither fits nor can be shown, lenient validation gives a configuration with
messages. Strict validation then fails exactly if a message tells of something besides fields that
are not known, or if lenient validation passes over a text for a list that has nothing between its
commas; and where it does not fail, it gives the same configuration with the same messages. Over a
value that neither fits nor can be shown, both modes fail.

The checks of both modes run side by side, and what lenient checks report is put into words. -/
theorem strict_agrees_with_lenient (cwd : String) (raw : Json) :
    (¬ Unspeakable raw → ∃ config messages, review cwd .lenient raw = .ok (config, messages) ∧
      ((∃ refusal, review cwd .strict raw = .error refusal) ↔
        (∃ message ∈ messages, ¬ "Unknown field".toList <+: message.toList) ∨ HasBlankList raw) ∧
      ∀ result, review cwd .strict raw = .ok result → result = (config, messages)) ∧
    (Unspeakable raw → review cwd .lenient raw = .error .unspeakable ∧
      ∃ refusal, review cwd .strict raw = .error refusal) := by
  refine ⟨fun speakable => ?_, review_of_unspeakable cwd⟩
  obtain ⟨config, warnings, valid, silent⟩ := worded_validate cwd raw
  have spoken : warnings.mapM Warning.message? ≠ none := fun none =>
    speakable (silent.mp (mapM_message?_eq_none_iff.mp none))
  obtain ⟨messages, said⟩ := Option.ne_none_iff_exists'.mp spoken
  have lenient : review cwd .lenient raw = .ok (config, messages) := by
    rw [review, valid]
    simp only [said]
  refine ⟨config, messages, lenient, ?_⟩
  rw [exists_message_iff said]
  rcases review_strict_of_parallel valid with ⟨⟨refusal, failed⟩, noticed⟩ | ⟨same, quiet⟩
  · refine ⟨⟨fun _ => noticed, fun _ => ⟨refusal, failed⟩⟩, fun result given => ?_⟩
    rw [failed] at given
    cases given
  · rw [same, lenient]
    refine ⟨⟨?_, fun noticed => absurd noticed quiet⟩, fun result given => ?_⟩
    · rintro ⟨refusal, ⟨⟩⟩
    · exact (Except.ok.inj given).symm

/-- An empty text for the extensions stops strict validation, and lenient validation gives a
configuration all the same. -/
theorem strict_agrees_with_lenient_empty :
    let raw : Json := .object [("extensions", .str ""), ("surplus", .null)]
    ¬ Unspeakable raw ∧ HasBlankList raw ∧
    (∃ refusal, review "/srv" .strict raw = .error refusal) ∧
    ∃ config messages, review "/srv" .lenient raw = .ok (config, messages) := by
  intro raw
  have speakable : ¬ Unspeakable raw := by rintro ⟨value, ⟨⟩, -⟩
  have nothing : IsBlankList "" := by
    have pieces : "".splitOn "," = [""] := by
      rw [String.splitOn, if_neg (by decide), String.splitOnAux, if_pos (by decide)]
      rfl
    rw [IsBlankList, pieces]
    decide
  have silent : HasBlankList raw := ⟨"extensions", by decide, "", rfl, nothing⟩
  obtain ⟨config, messages, lenient, stops, -⟩ :=
    (strict_agrees_with_lenient "/srv" raw).1 speakable
  exact ⟨speakable, silent, stops.mpr (.inr silent), config, messages, lenient⟩

/-- A number of workers that is far below zero makes both modes fail, and lenient validation reports
nothing. -/
theorem both_modes_fail :
    let raw : Json := .object [("max_workers", .int (-(10 ^ 5000 : Nat)))]
    (∃ refusal, review "/srv" .strict raw = .error refusal) ∧
    ¬ ∃ config messages, review "/srv" .lenient raw = .ok (config, messages) := by
  intro raw
  have failed := review_of_unspeakable "/srv" (unspeakable_neg_pow 5000 (by decide))
  refine ⟨failed.2, ?_⟩
  rintro ⟨config, messages, given⟩
  rw [failed.1] at given
  cases given

end ComponentAtlas.Config
