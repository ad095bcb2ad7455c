import ComponentAtlas.Proofs.Checks
import ComponentAtlas.Proofs.LongIntegers

/-!
# What cannot be said

Lenient validation refuses nothing, and yet it may fail, for want of words. Words show a value that
does not fit in one place only, where a whole number from one on is expected. So validation fails
exactly if the value that stands there holds an integer with too many digits, unless it is that
integer and fits, which is never shown.

What a lenient check reports is followed through steps in turn. Steps report something that cannot
be said if one of them does.
-/

namespace ComponentAtlas.Config

open Json (HoldsLong)

variable {α β : Type}

/-! ## Words for all warnings -/

/-- There are words for all warnings exactly if there are for each. -/
theorem mapM_message?_eq_some_iff {warnings : List Warning} {messages : List String} :
    warnings.mapM Warning.message? = some messages ↔
      warnings.map Warning.message? = messages.map some := by
  induction warnings generalizing messages with
  | nil => cases messages <;> simp
  | cons warning rest ih =>
    rw [List.mapM_cons, List.map_cons]
    cases messages with
    | nil => cases warning.message? <;> cases rest.mapM Warning.message? <;> simp
    | cons message others =>
      rw [List.map_cons, List.cons.injEq, ← ih]
      cases warning.message? <;> cases rest.mapM Warning.message? <;> simp

/-- There are no words for all warnings if there are none for one of them. -/
theorem mapM_message?_eq_none_iff {warnings : List Warning} :
    warnings.mapM Warning.message? = none ↔ ∃ warning ∈ warnings, warning.message? = none := by
  induction warnings with
  | nil => simp
  | cons warning rest ih =>
    simp only [List.mapM_cons, List.mem_cons, exists_eq_or_imp, ← ih]
    cases warning.message? <;> cases rest.mapM Warning.message? <;> simp

/-! ## What a lenient check reports -/

/-- The check refuses nothing, and reports something that cannot be said exactly if `mute` holds. -/
def Worded (mute : Prop) (checked : Checked α) : Prop :=
  ∃ value warnings, checked = .ok (value, warnings) ∧
    ((∃ warning ∈ warnings, warning.message? = none) ↔ mute)

namespace Worded

variable {mute other : Prop}

/-- What cannot be said may be told otherwise. -/
theorem congr {checked : Checked α} (worded : Worded mute checked) (same : mute ↔ other) :
    Worded other checked := propext same ▸ worded

/-- Nothing is said of a value that fits. -/
theorem pure (value : α) : Worded False (pure value : Checked α) :=
  ⟨value, [], rfl, by simp⟩

/-- One warning is all that is said. -/
theorem warn (warning : Warning) : Worded (warning.message? = none) (warn warning) :=
  ⟨(), [warning], rfl, by simp⟩

/-- Of a value that does not fit as much can be said as of the misfit. -/
theorem misfit (fallback : α) (found : Misfit) :
    Worded (found.message? = none) (misfit .lenient fallback found) :=
  ⟨fallback, [.replaced found], rfl, by simp [Warning.message?]⟩

/-- Steps in turn report what each of them does. -/
theorem bind {first : Checked α} {next : α → Checked β} (early : Worded mute first)
    (late : ∀ value, Worded other (next value)) : Worded (mute ∨ other) (first >>= next) := by
  obtain ⟨value, warnings, rfl, silent⟩ := early
  obtain ⟨result, more, later, quiet⟩ := late value
  refine ⟨result, warnings ++ more, ?_, ?_⟩
  · change Checked.andThen _ next = _
    simp only [Checked.andThen, later]
    rfl
  · simp only [List.mem_append, or_and_right, exists_or, silent, quiet]

end Worded

/-! ## Fields -/

variable (field : String)

/-- Texts are not shown. -/
theorem worded_checkText (fallback : String) (value : Json) :
    Worded False (checkText .lenient field fallback value) := by
  cases value with
  | null => exact .pure fallback
  | str text => exact .pure _
  | _ => exact (Worded.misfit fallback _).congr (by simp [Misfit.message?])

/-- A number that stands for a truth value is small, and can be shown. -/
theorem plain?_ne_none_of_numberTruth? {value : Json} {truth : Bool}
    (found : numberTruth? value = some truth) : value.plain? ≠ none := by
  cases value with
  | int number =>
    have small : number = 1 ∨ number = 0 := by
      by_contra other
      obtain ⟨one, zero⟩ := not_or.mp other
      simp [numberTruth?, one, zero] at found
    have short : Text.isShort number = true := by
      have room : 1 < 10 ^ Text.digitLimit := Nat.one_lt_pow (by decide) (by decide)
      rw [Json.isShort_iff]
      omega
    rw [Json.plain?, Json.quoted?, Text.writeInteger?, if_pos short]
    · exact Option.some_ne_none _
    · rintro _ ⟨⟩
  | float number => exact Option.some_ne_none _
  | _ => cases found

/-- What is converted to a truth value can be shown. -/
theorem message?_ne_none_of_convertTruth? {value : Json} {truth : Bool} {warning : Warning}
    (converted : convertTruth? field value = some (truth, warning)) :
    warning.message? ≠ none := by
  simp only [convertTruth?] at converted
  split at converted
  case h_1 text =>
    obtain ⟨_, -, same⟩ := Option.map_eq_some_iff.mp converted
    cases same
    nofun
  case h_2 =>
    obtain ⟨_, number, same⟩ := Option.map_eq_some_iff.mp converted
    cases same
    rw [Warning.message?, ne_eq, Option.map_eq_none_iff]
    exact plain?_ne_none_of_numberTruth? number

/-- Truth values, and what is converted to them, can be shown, and so can what is refused. -/
theorem worded_checkTruth (fallback : Bool) (value : Json) :
    Worded False (checkTruth .lenient field fallback value) := by
  cases value with
  | null => exact .pure fallback
  | bool truth => exact .pure truth
  | _ =>
    simp only [checkTruth]
    split
    case h_1 truth warning _ converted =>
      have said := message?_ne_none_of_convertTruth? field converted
      exact ((Worded.warn warning).bind fun _ => .pure truth).congr (by simp [said])
    case h_2 => exact (Worded.misfit fallback _).congr (by simp [Misfit.message?])

/-- Items are not shown. -/
theorem worded_checkItems (index : Nat) (items : List Json) :
    Worded False (checkItems .lenient field index items) := by
  induction items generalizing index with
  | nil => exact .pure []
  | cons item rest ih =>
    cases item with
    | str text =>
      simp only [checkItems]
      exact ((ih (index + 1)).bind fun _ => .pure _).congr (by simp)
    | _ =>
      simp only [checkItems]
      exact ((Worded.misfit () _).bind fun _ => ih (index + 1)).congr (by simp [Misfit.message?])

/-- Lists of texts are not shown. -/
theorem worded_checkTexts (fallback : List String) (value : Json) :
    Worded False (checkTexts .lenient field fallback value) := by
  cases value with
  | null => exact .pure fallback
  | list items =>
    exact ((worded_checkItems field 0 items).bind fun _ => .pure _).congr (by simp)
  | str text =>
    simp only [checkTexts]
    split
    case isTrue => exact .pure fallback
    case isFalse =>
      exact ((Worded.warn (.textsFromText field)).bind fun _ => .pure _).congr
        (by simp [Warning.message?])
  | _ => exact (Worded.misfit fallback _).congr (by simp [Misfit.message?])

/-- Extensions are texts and can be shown. -/
theorem worded_checkDots (extensions : List String) :
    Worded False (checkDots .lenient extensions) := by
  induction extensions with
  | nil => exact .pure []
  | cons extension rest ih =>
    have further : ∀ first, Worded False (do return first :: (← checkDots .lenient rest)) :=
      fun first => (ih.bind fun _ => .pure _).congr (by simp)
    simp only [checkDots]
    split
    case isTrue => exact ih
    case isFalse =>
      split
      case isTrue => exact further _
      case isFalse =>
        exact ((Worded.warn _).bind fun _ => further _).congr (by simp [Warning.message?])

/-- Names of fields are texts and can be shown. -/
theorem worded_unknownFields (names : List String) :
    Worded False (names.forM fun name => warn (.unknownField name)) := by
  induction names with
  | nil => exact .pure ()
  | cons name rest ih =>
    exact ((Worded.warn (.unknownField name)).bind fun _ => ih).congr (by simp [Warning.message?])

/-! ## Whole numbers -/

/-- A value in the place of a whole number that does not fit and cannot be shown: an integer with
too many digits is in it, or it is one itself and below one. -/
def UnspeakableCount (value : Json) : Prop :=
  HoldsLong value ∧ ∀ number, value = .int number → number < 1

/-- A power of ten below zero neither fits nor can be shown, if its digits are too many. -/
theorem unspeakableCount_neg_pow {zeros : Nat} (many : Text.digitLimit ≤ zeros) :
    UnspeakableCount (.int (-(10 ^ zeros : Nat))) := by
  constructor
  · rw [Json.holdsLong_int, ← Bool.not_eq_true, Json.isShort_iff, Int.natAbs_neg,
      Int.natAbs_natCast]
    exact Nat.not_lt.mpr (Nat.pow_le_pow_right (by decide) many)
  · rintro _ ⟨⟩
    have below : -((10 ^ zeros : Nat) : Int) ≤ 0 := Int.neg_nonpos_of_nonneg (Int.natCast_nonneg _)
    exact Int.lt_of_le_of_lt below (by decide)

/-- There are no words for a value that is no whole number if it cannot be shown. -/
theorem message?_noCount_eq_none_iff (value : Json) :
    (Misfit.noCount field value.quoted?).message? = none ↔ HoldsLong value := by
  rw [Misfit.message?, Option.map_eq_none_iff, Json.quoted?_eq_none_iff]

/-- A value is shown if no number from one on was read from it. -/
theorem worded_acceptCount (fallback : Nat) (value : Json) (read : Option Int) :
    Worded (HoldsLong value ∧ ∀ number, read = some number → number < 1)
      (acceptCount .lenient field fallback value read) := by
  have shown := (Worded.misfit fallback (.noCount field value.quoted?)).congr
    (message?_noCount_eq_none_iff field value)
  cases read with
  | none => exact shown.congr (by simp)
  | some number =>
    rw [acceptCount]
    split
    case isTrue least =>
      have fits : ¬ number < 1 := by omega
      exact (Worded.pure number.toNat).congr (by simp [fits])
    case isFalse below =>
      have least : number < 1 := by omega
      exact shown.congr (by simp [least])

/-- That a number is read from a text can be said. -/
theorem worded_readCount (value : Json) : Worded False (readCount .lenient field value) := by
  cases value with
  | int number => exact .pure (some number)
  | str text =>
    unfold readCount
    dsimp only
    split
    case h_1 number _ _ =>
      exact ((Worded.warn (.countFromText field text)).bind fun _ => .pure _).congr
        (by simp [Warning.message?])
    case h_2 => exact .pure none
  | _ => exact .pure none

/-- A text holds no integer, whatever number it writes. Of other values the number that is read is
told by the value. -/
theorem worded_checkCount (fallback : Nat) (value : Json) :
    Worded (UnspeakableCount value) (checkCount .lenient field fallback value) := by
  have accepted := worded_acceptCount field fallback value
  have read : ∀ number, readCount .lenient field value = pure number → value ≠ .null →
      checkCount .lenient field fallback value =
        acceptCount .lenient field fallback value number := by
    intro number plain present
    rw [checkCount_eq_bind present, plain, Checked.pure_bind]
  cases value with
  | null => exact (Worded.pure fallback).congr ⟨False.elim, by rintro ⟨⟨⟩, -⟩⟩
  | str text =>
    have shown := Json.not_holdsLong_str text
    rw [checkCount_eq_bind (by simp)]
    have quiet : ∀ number, Worded False
        (acceptCount .lenient field fallback (.str text) number) :=
      fun number => (accepted number).congr (by simp [shown])
    exact ((worded_readCount field (.str text)).bind quiet).congr
      (by simp [UnspeakableCount, shown])
  | int number =>
    rw [read (some number) rfl (by simp)]
    exact (accepted (some number)).congr (by simp [UnspeakableCount])
  | _ =>
    rw [read none rfl (by simp)]
    exact (accepted none).congr (by simp [UnspeakableCount])

/-! ## Whole configurations -/

/-- All that can fail to be said of the fields of an object is what stands where a number of
workers is expected. -/
theorem worded_validateFields (cwd : String) (fields : Json.Fields) :
    Worded (UnspeakableCount (given (standard cwd) fields "max_workers"))
      (validateFields cwd .lenient fields) := by
  unfold validateFields
  refine Worded.congr (.bind (worded_unknownFields _) fun _ =>
    .bind (worded_checkText _ _ _) fun _ => .bind (worded_checkText _ _ _) fun _ =>
    .bind (worded_checkText _ _ _) fun _ => .bind (worded_checkTruth _ _ _) fun _ =>
    .bind (worded_checkTexts _ _ _) fun _ => .bind (worded_checkTexts _ _ _) fun _ =>
    .bind (worded_checkTexts _ _ _) fun _ => .bind (worded_checkTexts _ _ _) fun _ =>
    .bind (worded_checkTexts _ _ _) fun _ => .bind (worded_checkCount _ _ _) fun _ =>
    .bind (worded_checkDots _) fun _ => .pure _) ?_
  simp

/-- A value for the number of workers is among the fields of an object, and it neither fits nor can
be shown. -/
def Unspeakable : Json → Prop
  | .object fields => ∃ value ∈ Keyed.get? fields "max_workers", UnspeakableCount value
  | _ => False

/-- So it is with a power of ten below zero for the number of workers. -/
theorem unspeakable_neg_pow (zeros : Nat) (many : Text.digitLimit ≤ zeros) :
    Unspeakable (.object [("max_workers", .int (-(10 ^ zeros : Nat)))]) :=
  ⟨_, rfl, unspeakableCount_neg_pow many⟩

/-- The default number of workers can be shown. -/
theorem unspeakableCount_given_iff (cwd : String) {fields : Json.Fields} :
    UnspeakableCount (given (standard cwd) fields "max_workers") ↔
      Unspeakable (.object fields) := by
  have fits : ¬ UnspeakableCount (.int 1) := fun long => absurd (long.2 1 rfl) (by decide)
  have default : (standard cwd).toFields.get? "max_workers" = some (.int 1) := rfl
  cases found : fields.get? "max_workers" <;> simp [given, found, default, fits, Unspeakable]

/-- All that can fail to be said of raw data is what stands where a number of workers is
expected. -/
theorem worded_validate (cwd : String) (raw : Json) :
    Worded (Unspeakable raw) (validate cwd .lenient raw) := by
  cases raw with
  | object fields => exact (worded_validateFields cwd fields).congr (unspeakableCount_given_iff cwd)
  | _ => exact (Worded.misfit _ _).congr (by simp [Misfit.message?, Unspeakable])

/-- Lenient validation fails exactly over a value that does not fit and cannot be shown. -/
theorem review_lenient_eq_error_iff (cwd : String) {raw : Json} {refusal : Refusal} :
    review cwd .lenient raw = .error refusal ↔ Unspeakable raw ∧ refusal = .unspeakable := by
  obtain ⟨config, warnings, valid, silent⟩ := worded_validate cwd raw
  rw [← silent, ← mapM_message?_eq_none_iff, review, valid]
  dsimp only
  cases warnings.mapM Warning.message? <;> simp [eq_comm]

/-- Otherwise it gives what the checks give. -/
theorem exists_review_lenient (cwd : String) {raw : Json}
    (speakable : ¬ Unspeakable raw) :
    ∃ messages, review cwd .lenient raw = .ok ((validated cwd raw).1, messages) := by
  obtain ⟨config, warnings, valid, silent⟩ := worded_validate cwd raw
  cases said : warnings.mapM Warning.message? with
  | none => exact absurd (silent.mp (mapM_message?_eq_none_iff.mp said)) speakable
  | some messages => exact ⟨messages, by simp [review, validated, valid, said]⟩

/-- What is read from a document can always be validated. -/
theorem not_unspeakable_of_parse {text : String} {raw : Json} (read : Json.parse text = .ok raw) :
    ¬ Unspeakable raw := by
  intro unspeakable
  cases raw with
  | object fields =>
    obtain ⟨value, found, long, -⟩ := unspeakable
    have present : ("max_workers", value) ∈ fields := Keyed.mem_of_get? found
    exact Json.not_holdsLong_of_parse read (.object present long)
  | _ => exact unspeakable

end ComponentAtlas.Config
