import ComponentAtlas.Text.Blank
import Mathlib.Data.List.TakeWhile

/-!
# Bare texts

A text is bare when no blank stands at either end of it. Trimming makes every text bare and
leaves the bare ones as they are, so the bare texts are exactly those that trimming gives, and
trimming twice is trimming once.

Blanks are trimmed on the left first and then, with the text reversed, on the right. What is
left after the second step is the start of what the first step gave, and so still starts with
no blank.
-/

namespace ComponentAtlas.Text

/-- No blank stands at either end of the text. -/
structure Bare (s : String) : Prop where
  first : ∀ c ∈ s.toList.head?, isBlank c = false
  last : ∀ c ∈ s.toList.getLast?, isBlank c = false

/-- Without the blanks at their head, characters start with none. -/
theorem isBlank_head?_trimLeft (chars : List Char) :
    ∀ c ∈ (trimLeft chars).head?, isBlank c = false := by
  intro c first
  have none := List.head?_dropWhile_not isBlank chars
  rw [show (chars.dropWhile isBlank).head? = some c from first] at none
  exact none

/-- Characters that start with no blank lose nothing at their head. -/
theorem trimLeft_eq_self {chars : List Char} (bare : ∀ c ∈ chars.head?, isBlank c = false) :
    trimLeft chars = chars := by
  cases chars with
  | nil => rfl
  | cons c rest =>
    have solid : isBlank c = false := bare c rfl
    simp [trimLeft, solid]

/-- Nothing is left behind the blanks at the head exactly if all is blank. -/
theorem trimLeft_eq_nil_iff {chars : List Char} :
    trimLeft chars = [] ↔ ∀ c ∈ chars, isBlank c = true := List.dropWhile_eq_nil_iff

/-- What is left after blanks at the end are dropped is how the characters start. -/
theorem trimRight_prefix (chars : List Char) : trimRight chars <+: chars := by
  have shorter : trimLeft chars.reverse <:+ chars.reverse := List.dropWhile_suffix isBlank
  simpa [trimRight] using List.reverse_prefix.mpr shorter

/-- Trimming makes a text bare. -/
theorem bare_trim (s : String) : Bare (trim s) where
  first := by
    intro c first
    rw [trim, String.toList_ofList] at first
    obtain ⟨dropped, whole⟩ := trimRight_prefix (trimLeft s.toList)
    apply isBlank_head?_trimLeft s.toList c
    rw [← whole, List.head?_append, first]
    rfl
  last := by
    intro c last
    rw [trim, String.toList_ofList, trimRight, List.getLast?_reverse] at last
    exact isBlank_head?_trimLeft _ c last

/-- A bare text is what is left of it by trimming. -/
theorem Bare.trim_eq {s : String} (bare : Bare s) : trim s = s := by
  have reversed : ∀ c ∈ s.toList.reverse.head?, isBlank c = false := by
    rw [List.head?_reverse]
    exact bare.last
  rw [trim, trimLeft_eq_self bare.first, trimRight, trimLeft_eq_self reversed,
    List.reverse_reverse, String.ofList_toList]

/-- The bare texts are those that trimming does not change. -/
theorem bare_iff_trim_eq {s : String} : Bare s ↔ trim s = s :=
  ⟨Bare.trim_eq, fun same => same ▸ bare_trim s⟩

/-- A text is bare if trimming gives it back. -/
instance (s : String) : Decidable (Bare s) := decidable_of_iff _ bare_iff_trim_eq.symm

/-- Nothing is left of a text by trimming exactly if it is blank. -/
theorem trim_eq_empty_iff {s : String} : trim s = "" ↔ ∀ c ∈ s.toList, isBlank c = true := by
  have twice : trimLeft (trimLeft s.toList) = trimLeft s.toList :=
    trimLeft_eq_self (isBlank_head?_trimLeft s.toList)
  have ends : trimRight (trimLeft s.toList) = [] ↔ trimLeft (trimLeft s.toList) = [] := by
    rw [trimRight, List.reverse_eq_nil_iff, trimLeft_eq_nil_iff, trimLeft_eq_nil_iff]
    simp
  rw [trim, ← String.toList_inj, String.toList_ofList, String.toList_empty, ends, twice,
    trimLeft_eq_nil_iff]

/-- The empty text has no blanks at its ends. -/
theorem bare_empty : Bare "" := ⟨by simp, by simp⟩

/-- A text stays bare when a bare text that is not empty is put in front of it. -/
theorem Bare.append {s t : String} (front : Bare s) (back : Bare t) (left : s ≠ "")
    (right : t ≠ "") : Bare (s ++ t) where
  first := by
    intro c first
    apply front.first c
    cases chars : s.toList with
    | nil => exact absurd (String.toList_eq_nil_iff.mp chars) left
    | cons d rest => simpa [chars] using first
  last := by
    intro c last
    apply back.last c
    cases chars : t.toList.getLast? with
    | none => exact absurd (String.toList_eq_nil_iff.mp (List.getLast?_eq_none_iff.mp chars)) right
    | some d => simpa [List.getLast?_append, chars] using last

/-- A text whose characters are changed stays bare if no blank comes of it. -/
theorem Bare.map {s : String} (bare : Bare s) {change : Char → Char}
    (solid : ∀ c, isBlank c = false → isBlank (change c) = false) :
    Bare (String.ofList (s.toList.map change)) where
  first := by
    simp only [String.toList_ofList, List.head?_map, Option.mem_def, Option.map_eq_some_iff]
    rintro _ ⟨c, first, rfl⟩
    exact solid c (bare.first c first)
  last := by
    simp only [String.toList_ofList, List.getLast?_map, Option.mem_def, Option.map_eq_some_iff]
    rintro _ ⟨c, last, rfl⟩
    exact solid c (bare.last c last)

end ComponentAtlas.Text
