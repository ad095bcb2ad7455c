import ComponentAtlas.Json.Display
import ComponentAtlas.Json.Printer
import ComponentAtlas.Json.Reader
import ComponentAtlas.Proofs.Overlay
import Mathlib.Algebra.Group.Nat.Defs
import Mathlib.Data.List.Induction
import Mathlib.Data.List.TakeDrop
import Mathlib.Data.List.TakeWhile

/-!
# Integers that are too long

An integer with too many digits cannot be written, wherever in a value it stands. That one value
is shown and another is not, that one is printed and another is not, is all told by whether such
an integer is in it.

No document brings one in. Of a whole number in a document the digits are counted before it is
read, so that what is read from a text can always be shown and printed.
-/

namespace ComponentAtlas.Json

/-! ## Values that hold one -/

/-- The digits of an integer are few enough exactly below a power of ten. -/
theorem isShort_iff {value : Int} :
    Text.isShort value = true ↔ value.natAbs < 10 ^ Text.digitLimit := by
  rw [Text.isShort, decide_eq_true_eq, Nat.pow_eq]

/-- An integer with too many digits stands somewhere in the value. -/
inductive HoldsLong : Json → Prop where
  | int {value : Int} (long : Text.isShort value = false) : HoldsLong (.int value)
  | list {items : List Json} {item : Json} (present : item ∈ items) (long : HoldsLong item) :
      HoldsLong (.list items)
  | object {fields : Fields} {field : String × Json} (present : field ∈ fields)
      (long : HoldsLong field.2) : HoldsLong (.object fields)

/-- An integer holds no integer but itself. -/
theorem holdsLong_int {value : Int} : HoldsLong (.int value) ↔ Text.isShort value = false :=
  ⟨fun (.int long) => long, .int⟩

/-- A list holds what its items hold. -/
theorem holdsLong_list {items : List Json} :
    HoldsLong (.list items) ↔ ∃ item ∈ items, HoldsLong item :=
  ⟨fun (.list present long) => ⟨_, present, long⟩, fun ⟨_, present, long⟩ => .list present long⟩

/-- An object holds what the values of its fields hold. -/
theorem holdsLong_object {fields : Fields} :
    HoldsLong (.object fields) ↔ ∃ field ∈ fields, HoldsLong field.2 :=
  ⟨fun (.object present long) => ⟨_, present, long⟩, fun ⟨_, present, long⟩ => .object present long⟩

/-- A text holds no integer. -/
theorem not_holdsLong_str (text : String) : ¬ HoldsLong (.str text) := nofun

/-! ## Showing and printing -/

/-- An integer is written unless it has too many digits. -/
theorem writeInteger?_eq_none_iff {value : Int} :
    Text.writeInteger? value = none ↔ Text.isShort value = false := by
  simp [Text.writeInteger?]

mutual

/-- A value cannot be shown exactly if it holds an integer with too many digits. -/
theorem quoted?_eq_none_iff : ∀ json : Json, json.quoted? = none ↔ HoldsLong json
  | .null | .bool true | .bool false | .float _ | .str _ => by simp [quoted?]; nofun
  | .int value => by rw [quoted?, writeInteger?_eq_none_iff, holdsLong_int]
  | .list items => by
    rw [holdsLong_list, ← quotedItems?_eq_none_iff items, quoted?]
    cases quotedItems? items <;> simp
  | .object fields => by
    rw [holdsLong_object, ← quotedFields?_eq_none_iff fields, quoted?]
    cases quotedFields? fields <;> simp

/-- The items of a list can be shown unless one of them cannot. -/
theorem quotedItems?_eq_none_iff :
    ∀ items : List Json, quotedItems? items = none ↔ ∃ item ∈ items, HoldsLong item
  | [] => by simp [quotedItems?]
  | item :: rest => by
    simp only [List.mem_cons, exists_eq_or_imp, ← quoted?_eq_none_iff item,
      ← quotedItems?_eq_none_iff rest, quotedItems?]
    cases quoted? item <;> cases quotedItems? rest <;> simp

/-- The fields of an object can be shown unless the value of one of them cannot. -/
theorem quotedFields?_eq_none_iff :
    ∀ fields : List (String × Json), quotedFields? fields = none ↔
      ∃ field ∈ fields, HoldsLong field.2
  | [] => by simp [quotedFields?]
  | (key, item) :: rest => by
    simp only [List.mem_cons, exists_eq_or_imp, ← quoted?_eq_none_iff item,
      ← quotedFields?_eq_none_iff rest, quotedFields?]
    cases quoted? item <;> cases quotedFields? rest <;> simp

end

mutual

/-- A value can be printed exactly if it holds no integer with too many digits. -/
theorem isWritable_iff : ∀ json : Json, Printer.isWritable json = true ↔ ¬ HoldsLong json
  | .null | .bool _ | .float _ | .str _ => by simp [Printer.isWritable]; nofun
  | .int value => by simp [Printer.isWritable, holdsLong_int]
  | .list items => by
    rw [Printer.isWritable, areItemsWritable_iff items, holdsLong_list]
    simp
  | .object fields => by
    rw [Printer.isWritable, areFieldsWritable_iff fields, holdsLong_object]
    simp

/-- The items of a list can be printed if each of them can. -/
theorem areItemsWritable_iff :
    ∀ items : List Json, Printer.areItemsWritable items = true ↔ ∀ item ∈ items, ¬ HoldsLong item
  | [] => by simp [Printer.areItemsWritable]
  | item :: rest => by
    rw [Printer.areItemsWritable, Bool.and_eq_true, isWritable_iff item, areItemsWritable_iff rest,
      List.forall_mem_cons]

/-- The fields of an object can be printed if the value of each of them can. -/
theorem areFieldsWritable_iff :
    ∀ fields : List (String × Json), Printer.areFieldsWritable fields = true ↔
      ∀ field ∈ fields, ¬ HoldsLong field.2
  | [] => by simp [Printer.areFieldsWritable]
  | (key, item) :: rest => by
    rw [Printer.areFieldsWritable, Bool.and_eq_true, isWritable_iff item,
      areFieldsWritable_iff rest, List.forall_mem_cons]

end

/-- What holds no integer with too many digits is printed in the layout of values. -/
theorem render_eq_ok_iff {json : Json} {indent : Nat} {text : String} :
    json.render indent = .ok text ↔ ¬ HoldsLong json ∧ Printer.value indent 0 json = text := by
  rw [render, ← isWritable_iff]
  cases Printer.isWritable json <;> simp

/-! ## Reading -/

/-- Digits in a row write a number of no more digits. -/
theorem digitsValue_lt {digits : List Char} (all : ∀ c ∈ digits, c.isDigit = true) :
    Reader.digitsValue digits < 10 ^ digits.length := by
  induction digits using List.reverseRecOn with
  | nil => decide
  | append_singleton digits c ih =>
    obtain ⟨front, last⟩ := List.forall_mem_append.mp all
    have few : c.toNat - '0'.toNat < 10 := by
      have digit := last c (List.mem_singleton_self c)
      simp only [Char.isDigit, Bool.and_eq_true, decide_eq_true_eq, UInt32.le_iff_toNat_le] at digit
      have most : c.toNat ≤ 57 := digit.2
      have zero : '0'.toNat = 48 := rfl
      omega
    have step : Reader.digitsValue (digits ++ [c]) =
        Reader.digitsValue digits * 10 + (c.toNat - '0'.toNat) := by
      simp [Reader.digitsValue]
    have before := ih front
    rw [step, List.length_append, List.length_singleton, Nat.pow_succ]
    omega

/-- The whole part of a number consists of digits. -/
theorem isDigit_of_wholeDigits {chars whole left : List Char}
    (parted : Reader.wholeDigits chars = (whole, left)) : ∀ c ∈ whole, c.isDigit = true := by
  unfold Reader.wholeDigits at parted
  split at parted
  · cases parted
    exact fun c present => List.mem_singleton.mp present ▸ rfl
  · rw [List.span_eq_takeWhile_dropWhile] at parted
    cases parted
    exact fun c present => List.mem_takeWhile_imp present

/-- A number that is read is not too long. The binary ones have no bound. -/
theorem not_holdsLong_of_number? {chars rest : List Char} {json : Json}
    (read : Reader.number? Text.digitLimit chars = some (.ok (json, rest))) :
    ¬ HoldsLong json := by
  simp only [Reader.number?] at read
  split at read
  case h_1 => cases read
  case h_2 whole left _ parted =>
    have small := digitsValue_lt (isDigit_of_wholeDigits parted)
    split at read
    case isTrue =>
      split at read
      case isTrue => cases read
      case isFalse few =>
        have within : 10 ^ whole.length ≤ 10 ^ Text.digitLimit :=
          Nat.pow_le_pow_right (by decide) (Nat.le_of_not_lt few)
        simp only [Option.some.injEq, Except.ok.injEq, Prod.mk.injEq] at read
        rw [← read.1, holdsLong_int, Bool.not_eq_false, isShort_iff]
        refine Nat.lt_of_lt_of_le (Nat.lt_of_le_of_lt ?_ small) within
        split <;> simp
    case isFalse =>
      simp only [Option.some.injEq, Except.ok.injEq, Prod.mk.injEq] at read
      rw [← read.1]
      nofun

/-- A step that succeeds succeeds with a value, and so does what follows it. -/
theorem exists_of_bind_eq_ok {ε α β : Type} {first : Except ε α} {next : α → Except ε β}
    {result : β} (whole : (first >>= next) = .ok result) :
    ∃ value, first = .ok value ∧ next value = .ok result := by
  cases first with
  | error fault => cases whole
  | ok value => exact ⟨value, rfl, whole⟩

/-- A change of what a step succeeds with leaves it to succeed. -/
theorem exists_of_map_eq_ok {ε α β : Type} {first : Except ε α} {change : α → β} {result : β}
    (whole : first.map change = .ok result) :
    ∃ value, first = .ok value ∧ change value = result := by
  cases first with
  | error fault => cases whole
  | ok value => exact ⟨value, rfl, Except.ok.inj whole⟩

/-- What is true of every value that is read is true of every item that is read. -/
theorem forall_of_items {holds : Json → Prop} {item : List Char → Reader.Outcome Json}
    (each : ∀ {chars rest json}, item chars = .ok (json, rest) → holds json) {room : Nat}
    {chars rest : List Char} {found : List Json}
    (read : Reader.items item room chars = .ok (found, rest)) : ∀ json ∈ found, holds json := by
  induction room generalizing chars rest found with
  | zero => cases read
  | succ room ih =>
    obtain ⟨⟨first, left⟩, given, read⟩ := exists_of_bind_eq_ok read
    dsimp only at read
    split at read
    · cases read
      exact List.forall_mem_singleton.mpr (each given)
    · obtain ⟨⟨others, last⟩, later, read⟩ := exists_of_bind_eq_ok read
      cases read
      exact List.forall_mem_cons.mpr ⟨each given, ih later⟩
    · cases read

/-- So it is of the value of every field. -/
theorem forall_of_fields {holds : Json → Prop} {item : List Char → Reader.Outcome Json}
    (each : ∀ {chars rest json}, item chars = .ok (json, rest) → holds json) {room : Nat}
    {chars rest : List Char} {found : List (String × Json)}
    (read : Reader.fields item room chars = .ok (found, rest)) :
    ∀ pair ∈ found, holds pair.2 := by
  induction room generalizing chars rest found with
  | zero => cases read
  | succ room ih =>
    simp only [Reader.fields] at read
    split at read
    case h_2 => cases read
    obtain ⟨⟨key, behind⟩, -, read⟩ := exists_of_bind_eq_ok read
    dsimp only at read
    split at read
    case h_2 => cases read
    obtain ⟨⟨first, left⟩, given, read⟩ := exists_of_bind_eq_ok read
    dsimp only at read
    split at read
    · cases read
      exact List.forall_mem_singleton.mpr (each given)
    · obtain ⟨⟨others, last⟩, later, read⟩ := exists_of_bind_eq_ok read
      cases read
      exact List.forall_mem_cons.mpr ⟨each given, ih later⟩
    · cases read

/-- No word stands for a number that is whole. -/
theorem not_holdsLong_of_words {word : String × Json} (listed : word ∈ Reader.words) :
    ¬ HoldsLong word.2 := by
  simp only [Reader.words, List.mem_cons, List.not_mem_nil, or_false] at listed
  rcases listed with rfl | rfl | rfl | rfl | rfl | rfl <;> nofun

/-- What is read where neither a text nor a list nor an object is holds no integer that is too
long. -/
theorem not_holdsLong_of_plainValue {chars rest : List Char} {json : Json}
    (read : Reader.plainValue Text.digitLimit chars = .ok (json, rest)) : ¬ HoldsLong json := by
  simp only [Reader.plainValue] at read
  split at read
  case h_1 outcome found =>
    obtain ⟨word, listed, here⟩ := List.exists_of_findSome?_eq_some found
    obtain ⟨left, -, same⟩ := Option.map_eq_some_iff.mp here
    cases read
    cases same
    exact not_holdsLong_of_words listed
  case h_2 =>
    split at read
    case h_1 number => exact not_holdsLong_of_number? (number.trans (congrArg some read))
    case h_2 => cases read

/-- No value that is read holds an integer that is too long. The induction is on the depth. -/
theorem not_holdsLong_of_value {depth : Nat} {chars rest : List Char} {json : Json}
    (read : Reader.value Text.digitLimit depth chars = .ok (json, rest)) : ¬ HoldsLong json := by
  induction depth generalizing chars rest json with
  | zero => cases read
  | succ depth ih =>
    simp only [Reader.value] at read
    split at read
    · obtain ⟨⟨text, left⟩, -, read⟩ := exists_of_map_eq_ok read
      cases read
      exact not_holdsLong_str text
    · split at read
      · cases read
        exact fun (.list present _) => List.not_mem_nil present
      · obtain ⟨⟨found, left⟩, given, read⟩ := exists_of_map_eq_ok read
        cases read
        rw [holdsLong_list]
        rintro ⟨item, present, long⟩
        exact forall_of_items ih given item present long
    · split at read
      · cases read
        exact fun (.object present _) => List.not_mem_nil present
      · obtain ⟨⟨pairs, left⟩, given, read⟩ := exists_of_map_eq_ok read
        cases read
        rw [holdsLong_object]
        rintro ⟨field, present, long⟩
        exact forall_of_fields ih given field (Keyed.mem_of_mem_ofPairs present) long
    · exact not_holdsLong_of_plainValue read

/-- What is read from a document holds no integer that is too long. -/
theorem not_holdsLong_of_parse {text : String} {json : Json} (read : parse text = .ok json) :
    ¬ HoldsLong json := by
  rw [parse, parseWithin] at read
  cases whole : Reader.document Text.digitLimit text.toList with
  | error failure =>
    rw [whole] at read
    cases read
  | ok result =>
    rw [whole] at read
    cases read
    simp only [Reader.document] at whole
    split at whole
    · cases whole
    · obtain ⟨⟨value, left⟩, given, whole⟩ := exists_of_bind_eq_ok whole
      dsimp only at whole
      split at whole
      · cases whole
        exact not_holdsLong_of_value given
      · cases whole

end ComponentAtlas.Json
