import ComponentAtlas.Proofs.LongIntegers
import Mathlib.Data.List.TakeDrop

/-!
# Reading texts, words and numbers that were printed

What stands for one character in quotes is read as the code point of that character, so a text
is read back from its quotes. No code point of a character is a surrogate, and so none are joined.

A word is read back since the words that are tried before it start otherwise. A whole number does
not tell by itself where it ends. What follows it in a printed document is a comma, a line break
or nothing, and these go on neither with its digits nor with a fraction or an exponent.
-/

namespace ComponentAtlas.Json

/-! ## Texts -/

/-- A character in quotes stands for itself, or it is escaped by a letter of its own or by the
digits of its code point. -/
theorem escape_cases (c : Char) :
    (∃ letter, letter ≠ 'u' ∧ 0x20 ≤ letter.toNat ∧ Reader.escape? letter = some c ∧
      Printer.escape c = ['\\', letter]) ∨
    (c.toNat < 0x20 ∧ Printer.escape c =
      ['\\', 'u', '0', '0', Nat.digitChar (c.toNat / 16), Nat.digitChar (c.toNat % 16)]) ∨
    (c ≠ '"' ∧ c ≠ '\\' ∧ 0x20 ≤ c.toNat ∧ Printer.escape c = [c]) := by
  by_cases lettered : c ∈ ['"', '\\', '\n', '\r', '\t', '\x08', '\x0C']
  · simp only [List.mem_cons, List.not_mem_nil, or_false] at lettered
    left
    rcases lettered with rfl | rfl | rfl | rfl | rfl | rfl | rfl
    · exact ⟨'"', by decide, by decide, rfl, rfl⟩
    · exact ⟨'\\', by decide, by decide, rfl, rfl⟩
    · exact ⟨'n', by decide, by decide, rfl, rfl⟩
    · exact ⟨'r', by decide, by decide, rfl, rfl⟩
    · exact ⟨'t', by decide, by decide, rfl, rfl⟩
    · exact ⟨'b', by decide, by decide, rfl, rfl⟩
    · exact ⟨'f', by decide, by decide, rfl, rfl⟩
  · right
    simp only [List.mem_cons, List.not_mem_nil, or_false, not_or] at lettered
    by_cases control : c.toNat < 0x20
    · exact .inl ⟨control, by simp [Printer.escape, lettered, control]⟩
    · exact .inr ⟨lettered.1, lettered.2.1, Nat.le_of_not_lt control, by
        simp [Printer.escape, lettered, control]⟩

/-- The digits of an escaped character give its code point. -/
theorem unit?_digits {code : Nat} (control : code < 0x20) :
    Reader.unit? '0' '0' (Nat.digitChar (code / 16)) (Nat.digitChar (code % 16)) = some code := by
  revert code
  decide

/-- A character in quotes is read as its code point. Something comes after it, since the closing
quote does. -/
theorem textUnits_escape (start : Nat) (c : Char) {chars : List Char} (more : chars ≠ []) :
    Reader.textUnits start (Printer.escape c ++ chars) =
      (Reader.textUnits start chars).map fun (units, left) => (c.toNat :: units, left) := by
  obtain ⟨next, rest, rfl⟩ := List.exists_cons_of_ne_nil more
  rcases escape_cases c with ⟨letter, other, -, meant, escaped⟩ | ⟨control, escaped⟩ |
    ⟨quote, backslash, printable, escaped⟩
  · simp [escaped, Reader.textUnits, other, meant]
  · simp [escaped, Reader.textUnits, unit?_digits control]
  · have visible : ¬ c.toNat < 0x20 := by omega
    simp [escaped, Reader.textUnits, backslash, visible]

/-- A text in quotes is read as its code points. -/
theorem textUnits_text (start : Nat) (chars rest : List Char) :
    Reader.textUnits start (chars.flatMap Printer.escape ++ '"' :: rest) =
      .ok (chars.map Char.toNat, rest) := by
  induction chars with
  | nil => rfl
  | cons c chars ih =>
    rw [List.flatMap_cons, List.append_assoc, textUnits_escape start c (by simp), ih]
    rfl

/-- Code points of characters are no surrogates, so none are joined. -/
theorem joinUnits_chars (chars : List Char) : Reader.joinUnits (chars.map Char.toNat) = chars := by
  have whole : ∀ c : Char, ¬ (0xD800 ≤ c.toNat ∧ c.toNat < 0xE000) := by
    intro c
    rcases c.valid with low | ⟨high, -⟩
    · have below : c.toNat < 0xD800 := low
      omega
    · have above : 0xDFFF < c.toNat := high
      omega
  induction chars with
  | nil => rfl
  | cons c rest ih =>
    have single : ¬ (0xD800 ≤ c.toNat ∧ c.toNat < 0xDC00) := fun high => whole c (by omega)
    cases rest with
    | nil => simp [Reader.joinUnits, whole]
    | cons next rest =>
      simp only [List.map_cons] at ih ⊢
      simp [Reader.joinUnits, whole, single, ih]

/-- A text is read back from its quotes. -/
theorem text_text (s : String) (rest : List Char) :
    Reader.text (s.toList.flatMap Printer.escape ++ '"' :: rest) = .ok (s, rest) := by
  rw [Reader.text, textUnits_text]
  simp [Except.map, joinUnits_chars]

section

variable (limit : Nat)

/-! ## Words -/

/-- A word is read up to its end. -/
theorem word?_append (word : String) (rest : List Char) :
    Reader.word? word (word.toList ++ rest) = some rest := by
  have first : word.toList.isPrefixOf (word.toList ++ rest) = true :=
    List.isPrefixOf_iff_prefix.mpr (List.prefix_append _ _)
  rw [Reader.word?, if_pos first, ← String.length_toList, List.drop_left]

/-- A word is not read where one of its letters has another one in its place. -/
theorem word?_eq_none {word : String} {chars : List Char} {place : Nat} {c d : Char}
    (letter : word.toList[place]? = some c) (there : chars[place]? = some d) (apart : c ≠ d) :
    Reader.word? word chars = none := by
  rw [Reader.word?, if_neg]
  intro first
  obtain ⟨rest, rfl⟩ := List.isPrefixOf_iff_prefix.mp first
  rw [List.getElem?_append_left (List.getElem?_eq_some_iff.mp letter).1, letter] at there
  exact apart (Option.some.inj there)

/-- A word that is listed is read as its value, if none before it is how the document goes on. -/
theorem plainValue_word {before after : List (String × Json)} {word : String} {value : Json}
    (listed : Reader.words = before ++ (word, value) :: after) {rest : List Char}
    (apart : ∀ other ∈ before, Reader.word? other.1 (word.toList ++ rest) = none) :
    Reader.plainValue limit (word.toList ++ rest) = .ok (value, rest) := by
  rw [Reader.plainValue, listed, List.findSome?_append, List.findSome?_eq_none_iff.mpr ?earlier]
  case earlier =>
    intro other present
    simp [apart other present]
  simp only [Option.none_or, List.findSome?_cons, word?_append]
  rfl

/-- The word for nothing is read. -/
theorem plainValue_null (rest : List Char) :
    Reader.plainValue limit ("null".toList ++ rest) = .ok (.null, rest) := by
  have listed : Reader.words = [] ++ ("null", .null) :: Reader.words.drop 1 := rfl
  exact plainValue_word limit listed (List.forall_mem_nil _)

/-- The words for truth values are read, each of them past the words before it, which start with
another letter. -/
theorem plainValue_bool (value : Bool) (rest : List Char) :
    Reader.plainValue limit ((if value then "true" else "false").toList ++ rest) =
      .ok (.bool value, rest) := by
  cases value
  · have listed : Reader.words = [("null", .null), ("true", .bool true)] ++
        ("false", .bool false) :: Reader.words.drop 3 := rfl
    have there : ("false".toList ++ rest)[0]? = some 'f' := by simp
    refine plainValue_word limit listed (List.forall_mem_cons.mpr ⟨?_, ?_⟩)
    · exact word?_eq_none (c := 'n') (by decide) there (by decide)
    · exact List.forall_mem_singleton.mpr (word?_eq_none (c := 't') (by decide) there (by decide))
  · have listed : Reader.words = [("null", .null)] ++
        ("true", .bool true) :: Reader.words.drop 2 := rfl
    have there : ("true".toList ++ rest)[0]? = some 't' := by simp
    refine plainValue_word limit listed (List.forall_mem_singleton.mpr ?_)
    exact word?_eq_none (c := 'n') (by decide) there (by decide)

/-! ## Whole numbers -/

/-- The characters that may follow a whole number in a document. -/
def Ends (rest : List Char) : Prop := ∀ c ∈ rest.head?, c = ',' ∨ c = '\n'

/-- The digits of a number write that number. -/
theorem digitsValue_toDigits (n : Nat) : Reader.digitsValue (Nat.toDigits 10 n) = n := by
  have value : Nat.ofDigitChars 10 (Nat.toDigits 10 n) 0 = n := Nat.ofDigitChars_ten_toDigits
  simpa [Nat.ofDigitChars, Reader.digitsValue, Nat.mul_comm] using value

/-- The digits of a number are told from what follows it. -/
theorem span_digits {digits rest : List Char} (all : ∀ c ∈ digits, c.isDigit = true)
    (ends : Ends rest) : (digits ++ rest).span Char.isDigit = (digits, rest) := by
  rw [List.span_eq_takeWhile_dropWhile, List.takeWhile_append_of_pos all,
    List.dropWhile_append_of_pos all]
  cases rest with
  | nil => simp
  | cons c rest =>
    have other : c.isDigit = false := by
      rcases ends c rfl with rfl | rfl <;> decide
    simp [other]

/-- A digit is no other character. -/
theorem ne_of_isDigit {c d : Char} (digit : c.isDigit = true) (other : d.isDigit = false) :
    c ≠ d := by
  rintro rfl
  exact absurd digit (by simp [other])

/-- The digits of a number are digits of ASCII. -/
theorem isDigit_of_mem {n : Nat} {c : Char} (present : c ∈ Nat.toDigits 10 n) :
    c.isDigit = true := Nat.isDigit_of_mem_toDigits (by decide) (by decide) present

/-- There is a first digit. -/
theorem exists_toDigits (n : Nat) :
    ∃ c more, Nat.toDigits 10 n = c :: more ∧ c.isDigit = true := by
  obtain ⟨c, more, start⟩ := List.exists_cons_of_ne_nil (Nat.toDigits_ne_nil (n := n) (b := 10))
  exact ⟨c, more, start, isDigit_of_mem (n := n) (start ▸ List.mem_cons_self)⟩

/-- The digits of a number that is not zero start with none. -/
theorem head?_toDigits {n : Nat} (positive : 0 < n) : (Nat.toDigits 10 n).head? ≠ some '0' := by
  induction n using Nat.strongRecOn with
  | ind n ih =>
    by_cases small : n < 10
    · have solid : ∀ digit < 10, 0 < digit → Nat.digitChar digit ≠ '0' := by decide
      rw [Nat.toDigits_of_lt_base small]
      simpa using solid n small positive
    · have above : 10 ≤ n := Nat.le_of_not_lt small
      obtain ⟨c, digits, start, -⟩ := exists_toDigits (n / 10)
      have shorter := ih (n / 10) (by omega) (by omega)
      rw [Nat.toDigits_of_base_le (by decide) above]
      rw [start] at shorter ⊢
      exact shorter

/-- The whole part of a printed number is the number. -/
theorem wholeDigits_toDigits (n : Nat) {rest : List Char} (ends : Ends rest) :
    Reader.wholeDigits (Nat.toDigits 10 n ++ rest) = (Nat.toDigits 10 n, rest) := by
  by_cases zero : n = 0
  · subst zero
    rfl
  · have head := head?_toDigits (Nat.pos_of_ne_zero zero)
    have digits : (Nat.toDigits 10 n ++ rest).span Char.isDigit = (Nat.toDigits 10 n, rest) :=
      span_digits (fun _ => isDigit_of_mem) ends
    obtain ⟨c, more, start, -⟩ := exists_toDigits n
    rw [start] at head digits ⊢
    have other : c ≠ '0' := fun same => head (by rw [same]; rfl)
    simpa [Reader.wholeDigits, other] using digits

/-- No fraction follows where a number ends. -/
theorem fractionDigits_of_ends {rest : List Char} (ends : Ends rest) :
    Reader.fractionDigits rest = none := by
  cases rest with
  | nil => rfl
  | cons c rest => rcases ends c rfl with rfl | rfl <;> rfl

/-- Nor does an exponent. -/
theorem exponent?_of_ends {rest : List Char} (ends : Ends rest) :
    Reader.exponent? rest = none := by
  cases rest with
  | nil => rfl
  | cons c rest => rcases ends c rfl with rfl | rfl <;> rfl

/-- Digits that are not too many are read as the number that they are printed for, and after a
sign as the one below zero. -/
theorem number?_toDigits {n : Nat} (few : (Nat.toDigits 10 n).length ≤ limit) {rest : List Char}
    (ends : Ends rest) :
    Reader.number? limit (Nat.toDigits 10 n ++ rest) = some (.ok (.int n, rest)) ∧
    Reader.number? limit ('-' :: (Nat.toDigits 10 n ++ rest)) = some (.ok (.int (-n), rest)) := by
  have whole := wholeDigits_toDigits n ends
  have value := digitsValue_toDigits n
  obtain ⟨c, more, start, digit⟩ := exists_toDigits n
  rw [start] at few value ⊢
  rw [start, List.cons_append] at whole
  have unsigned : c ≠ '-' := ne_of_isDigit digit (by decide)
  have within : ¬ limit < (c :: more).length := Nat.not_lt.mpr few
  constructor <;>
    simp [Reader.number?, unsigned, whole, value, fractionDigits_of_ends ends,
      exponent?_of_ends ends, -List.length_cons, within]

/-- Words that are values have no digit in their first two places. -/
theorem letters_of_words : ∀ word ∈ Reader.words.map Prod.fst, ∀ place < 2,
    (word.toList[place]?).any (!·.isDigit) = true := by decide

/-- A number is a value where there is a digit in one of the first two places. -/
theorem plainValue_of_isDigit {chars : List Char} (place : Nat) (early : place < 2) {c : Char}
    (there : chars[place]? = some c) (digit : c.isDigit = true) {outcome : Reader.Outcome Json}
    (number : Reader.number? limit chars = some outcome) :
    Reader.plainValue limit chars = outcome := by
  have unread : ∀ listed ∈ Reader.words, Reader.word? listed.1 chars = none := by
    intro listed present
    have letter := letters_of_words listed.1 (List.mem_map_of_mem present) place early
    rw [Option.any_eq_true] at letter
    obtain ⟨d, same, other⟩ := letter
    refine word?_eq_none same there ?_
    rintro rfl
    simp [digit] at other
  rw [Reader.plainValue, List.findSome?_eq_none_iff.mpr ?words, number]
  case words =>
    intro listed present
    simp [unread listed present]

/-- A printed number of any sign: digits, after a sign if it is below zero. -/
theorem toList_toString (i : Int) :
    (toString i).toList =
      if 0 ≤ i then Nat.toDigits 10 i.toNat else '-' :: Nat.toDigits 10 (-i).toNat := by
  rw [Int.toString_eq_repr, Int.repr_eq_if]
  split <;> simp [Nat.repr_eq_ofList_toDigits]

end

/-- A number that can be written has few enough digits to be read. -/
theorem length_toDigits_le {i : Int} (short : Text.isShort i = true) :
    (Nat.toDigits 10 i.natAbs).length ≤ Text.digitLimit :=
  (Nat.length_toDigits_le_iff (by decide) (by decide)).mpr (isShort_iff.mp short)

/-- A whole number that is not too long is read back. -/
theorem plainValue_toString {i : Int} (short : Text.isShort i = true) {rest : List Char}
    (ends : Ends rest) :
    Reader.plainValue Text.digitLimit ((toString i).toList ++ rest) = .ok (.int i, rest) := by
  have few := length_toDigits_le short
  rw [toList_toString]
  split
  case isTrue natural =>
    obtain ⟨c, more, start, digit⟩ := exists_toDigits i.toNat
    rw [show i.natAbs = i.toNat by omega] at few
    have number := (number?_toDigits _ few ends).1
    rw [Int.toNat_of_nonneg natural] at number
    exact plainValue_of_isDigit _ 0 (by decide) (by simp [start]) digit number
  case isFalse negative =>
    obtain ⟨c, more, start, digit⟩ := exists_toDigits (-i).toNat
    rw [show i.natAbs = (-i).toNat by omega] at few
    have number := (number?_toDigits _ few ends).2
    rw [Int.toNat_of_nonneg (by omega), Int.neg_neg] at number
    exact plainValue_of_isDigit _ 1 (by decide) (by simp [start]) digit number

end ComponentAtlas.Json
