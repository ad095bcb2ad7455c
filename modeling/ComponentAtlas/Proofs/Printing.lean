import ComponentAtlas.Proofs.Literals

/-!
# Reading values that were printed

A value without binary numbers and without whole numbers that are too long, in whose objects keys
differ, is printed, and is read back as it was printed, with any indentation. Every part of a value
is read up to its last character and no further, so the items of a list and the fields of an object
are read in turn. Between them stand a comma and a line break, either of which may follow a whole
number.

The reader bounds its depth by the length of the document and the number of items by what is
left of it. Both bounds are wide enough, since each item is shorter than its list, and a list has
no more commas than characters.
-/

namespace ComponentAtlas.Json

open Reader (Outcome)

/-! ## Lists and objects -/

/-- A value that is printed without loss: no binary number, no whole number with too many digits,
and no key twice in an object. -/
inductive Exact : Json → Prop where
  | null : Exact .null
  | bool (value : Bool) : Exact (.bool value)
  | int {value : Int} (short : Text.isShort value = true) : Exact (.int value)
  | str (value : String) : Exact (.str value)
  | list {items : List Json} (all : ∀ item ∈ items, Exact item) : Exact (.list items)
  | object {fields : Fields} (distinct : fields.keys.Nodup)
      (all : ∀ field ∈ fields, Exact field.2) : Exact (.object fields)

/-- A line break with spaces after it. -/
def gap (width : Nat) : List Char := '\n' :: List.replicate width ' '

/-- A line break is a line feed and the spaces of its level. -/
theorem toList_newline (indent level : Nat) :
    (Printer.newline indent level).toList = gap (indent * level) := by
  simp [Printer.newline, gap]

/-- A line break is passed over. -/
theorem skip_gap (width : Nat) (chars : List Char) :
    Reader.skip (gap width ++ chars) = Reader.skip chars := by
  refine List.dropWhile_append_of_pos ?_
  intro c present
  rcases List.mem_cons.mp present with rfl | blank
  · decide
  · rw [List.eq_of_mem_replicate blank]
    decide

/-- A line break ends a number. -/
theorem ends_gap (width : Nat) (rest : List Char) : Ends (gap width ++ rest) := by
  rintro c ⟨⟩
  exact .inr rfl

/-- So does a comma. -/
theorem ends_comma (rest : List Char) : Ends (',' :: rest) := by
  rintro c ⟨⟩
  exact .inl rfl

/-- Characters of which the first is passed over by no reader and closes nothing. -/
def Starts (chars : List Char) : Prop :=
  ∃ c rest, chars = c :: rest ∧ Reader.isSpace c = false ∧ c ≠ ']' ∧ c ≠ '}' ∧ c ≠ '\uFEFF'

/-- Only the first character counts. -/
theorem Starts.append {chars : List Char} (starts : Starts chars) (rest : List Char) :
    Starts (chars ++ rest) := by
  obtain ⟨c, more, rfl, solid⟩ := starts
  exact ⟨c, more ++ rest, rfl, solid⟩

/-- The first character is no space, so nothing is passed over. -/
theorem Starts.skip_eq {chars : List Char} (starts : Starts chars) :
    Reader.skip chars = chars := by
  obtain ⟨c, more, rfl, solid, -⟩ := starts
  simp [Reader.skip, solid]

/-- Texts with something between them start as the first of them does. -/
theorem starts_intercalate {first : List Char} (starts : Starts first) (between : List Char)
    (others : List (List Char)) : Starts (between.intercalate (first :: others)) := by
  cases others with
  | nil => exact List.intercalate_singleton ▸ starts
  | cons next more =>
    rw [List.intercalate_cons_cons, List.append_assoc]
    exact starts.append _

/-- What stands between commas is no longer than the whole. -/
theorem length_le_intercalate (between : List Char) {text : List Char} {texts : List (List Char)}
    (present : text ∈ texts) : text.length ≤ (between.intercalate texts).length := by
  induction texts with
  | nil => cases present
  | cons first others ih =>
    cases others with
    | nil =>
      have same : text = first := List.mem_singleton.mp present
      exact Nat.le_of_eq (by rw [same, List.intercalate_singleton])
    | cons next more =>
      rw [List.intercalate_cons_cons, List.length_append, List.length_append]
      rcases List.mem_cons.mp present with rfl | later
      · omega
      · have shorter := ih later
        omega

/-- There are no more commas than characters. -/
theorem length_texts_le {between : List Char} (filled : between ≠ []) (texts : List (List Char)) :
    texts.length ≤ (between.intercalate texts).length + 1 := by
  have comma : 0 < between.length := List.length_pos_iff.mpr filled
  induction texts with
  | nil => simp
  | cons first others ih =>
    cases others with
    | nil => simp
    | cons next more =>
      rw [List.intercalate_cons_cons, List.length_append, List.length_append, List.length_cons]
      omega

/-- After a line break, texts with commas and line breaks between them are next. There are no more
of them than characters. -/
theorem skip_intercalate (width : Nat) {first : List Char} (starts : Starts first)
    (others : List (List Char)) (rest : List Char) {body : List Char}
    (whole : (',' :: gap width).intercalate (first :: others) ++ rest = body) :
    Reader.skip (gap width ++ body) = body ∧ Starts body ∧
      (first :: others).length ≤ body.length + 1 := by
  have next : Starts body := whole ▸ (starts_intercalate starts _ others).append rest
  have commas := length_texts_le (List.cons_ne_nil ',' (gap width)) (first :: others)
  refine ⟨(skip_gap width body).trans next.skip_eq, next, ?_⟩
  rw [← whole, List.length_append]
  omega

/-- Between texts stand a comma and a line break. -/
theorem intercalate_next (width : Nat) (first next : List Char) (others : List (List Char))
    (rest : List Char) :
    (',' :: gap width).intercalate (first :: next :: others) ++ rest =
      first ++ ',' :: (gap width ++ ((',' :: gap width).intercalate (next :: others) ++ rest)) := by
  simp [List.intercalate_cons_cons]

section

variable {read : List Char → Outcome Json} {write : Json → List Char} {width outer limit : Nat}
  {item : Json} {chars left more rest : List Char}

/-- The last item of a list is followed by the closing bracket. -/
theorem items_last (first : read chars = .ok (item, left))
    (closing : Reader.skip left = ']' :: rest) :
    Reader.items read (limit + 1) chars = .ok ([item], rest) := by
  simp only [Reader.items, first, bind, Except.bind, closing]
  rfl

/-- Every other item is followed by a comma. -/
theorem items_next {others : List Json} (first : read chars = .ok (item, left))
    (comma : Reader.skip left = ',' :: more)
    (later : Reader.items read limit (Reader.skip more) = .ok (others, rest)) :
    Reader.items read (limit + 1) chars = .ok (item :: others, rest) := by
  simp only [Reader.items, first, bind, Except.bind, comma, later]
  rfl

/-- Items with commas and line breaks between them are read in turn, if each is. -/
theorem items_intercalate {found : List Json} (filled : found ≠ [])
    (starts : ∀ item ∈ found, Starts (write item))
    (back : ∀ item ∈ found, ∀ rest, Ends rest → read (write item ++ rest) = .ok (item, rest))
    (room : found.length ≤ limit) (rest : List Char) :
    Reader.items read limit ((',' :: gap width).intercalate (found.map write) ++
      (gap outer ++ ']' :: rest)) = .ok (found, rest) := by
  induction found generalizing limit with
  | nil => exact absurd rfl filled
  | cons item others ih =>
    obtain ⟨limit, rfl⟩ : ∃ fewer, limit = fewer + 1 := by
      rw [List.length_cons] at room
      exact ⟨limit - 1, by omega⟩
    have here := back item List.mem_cons_self
    cases others with
    | nil =>
      rw [List.map_singleton, List.intercalate_singleton]
      exact items_last (here _ (ends_gap _ _)) (skip_gap _ _)
    | cons next more =>
      have resumed := (skip_intercalate width (starts next (by simp)) (more.map write)
        (gap outer ++ ']' :: rest) rfl).1
      have later := ih (by simp) (fun item present => starts item (List.mem_cons_of_mem _ present))
        (fun item present => back item (List.mem_cons_of_mem _ present))
        (Nat.le_of_succ_le_succ room)
      rw [List.map_cons, List.map_cons, intercalate_next]
      refine items_next (here _ (ends_comma _)) rfl ?_
      rw [resumed]
      exact later

/-- A field of an object: its key in quotes, and its value after a colon and a space. -/
def member (write : Json → List Char) (field : String × Json) : List Char :=
  '"' :: (field.1.toList.flatMap Printer.escape ++ '"' :: ':' :: ' ' :: write field.2)

/-- A field starts with the quote of its key. -/
theorem starts_member (write : Json → List Char) (field : String × Json) :
    Starts (member write field) := ⟨'"', _, rfl, by decide, by decide, by decide, by decide⟩

variable {field : String × Json}

/-- A field is read up to the end of its value. -/
theorem text_member (solid : Starts (write field.2)) (chars : List Char) :
    ∃ afterQuote left, member write field ++ chars = '"' :: afterQuote ∧
      Reader.text afterQuote = .ok (field.1, ':' :: left) ∧
      Reader.skip left = write field.2 ++ chars := by
  refine ⟨_, ' ' :: (write field.2 ++ chars), ?_, text_text _ _, (solid.append chars).skip_eq⟩
  simp [member]

/-- The last field of an object is followed by the closing brace. -/
theorem fields_last (solid : Starts (write field.2))
    (first : read (write field.2 ++ chars) = .ok (field.2, left))
    (closing : Reader.skip left = '}' :: rest) :
    Reader.fields read (limit + 1) (member write field ++ chars) = .ok ([field], rest) := by
  obtain ⟨afterQuote, afterColon, quoted, key, value⟩ := text_member solid chars
  have colon : Reader.skip (':' :: afterColon) = ':' :: afterColon := rfl
  simp only [quoted, Reader.fields, key, bind, Except.bind, colon, value, first, closing]
  rfl

/-- Every other field is followed by a comma. -/
theorem fields_next {others : Fields} (solid : Starts (write field.2))
    (first : read (write field.2 ++ chars) = .ok (field.2, left))
    (comma : Reader.skip left = ',' :: more)
    (later : Reader.fields read limit (Reader.skip more) = .ok (others, rest)) :
    Reader.fields read (limit + 1) (member write field ++ chars) = .ok (field :: others, rest) := by
  obtain ⟨afterQuote, afterColon, quoted, key, value⟩ := text_member solid chars
  have colon : Reader.skip (':' :: afterColon) = ':' :: afterColon := rfl
  simp only [quoted, Reader.fields, key, bind, Except.bind, colon, value, first, comma, later]
  rfl

/-- Fields with commas and line breaks between them are read in turn, if the value of each is. -/
theorem fields_intercalate {found : Fields} (filled : found ≠ [])
    (starts : ∀ field ∈ found, Starts (write field.2))
    (back : ∀ field ∈ found, ∀ rest, Ends rest →
      read (write field.2 ++ rest) = .ok (field.2, rest))
    (room : found.length ≤ limit) (rest : List Char) :
    Reader.fields read limit ((',' :: gap width).intercalate (found.map (member write)) ++
      (gap outer ++ '}' :: rest)) = .ok (found, rest) := by
  induction found generalizing limit with
  | nil => exact absurd rfl filled
  | cons field others ih =>
    obtain ⟨limit, rfl⟩ : ∃ fewer, limit = fewer + 1 := by
      rw [List.length_cons] at room
      exact ⟨limit - 1, by omega⟩
    have solid := starts field List.mem_cons_self
    have here := back field List.mem_cons_self
    cases others with
    | nil =>
      rw [List.map_singleton, List.intercalate_singleton]
      exact fields_last solid (here _ (ends_gap _ _)) (skip_gap _ _)
    | cons next more =>
      have resumed := (skip_intercalate width (starts_member write next)
        (more.map (member write)) (gap outer ++ '}' :: rest) rfl).1
      have later := ih (by simp)
        (fun field present => starts field (List.mem_cons_of_mem _ present))
        (fun field present => back field (List.mem_cons_of_mem _ present))
        (Nat.le_of_succ_le_succ room)
      rw [List.map_cons, List.map_cons, intercalate_next]
      refine fields_next solid (here _ (ends_comma _)) rfl ?_
      rw [resumed]
      exact later

end

/-! ## Values -/

section

variable {indent level : Nat}

/-- How a value is printed inside a list or an object. -/
def inner (indent level : Nat) (json : Json) : List Char :=
  (Printer.value indent (level + 1) json).toList

/-- Nothing is printed as a word. -/
theorem toList_null : (Printer.value indent level .null).toList = "null".toList := by
  simp [Printer.value]

/-- A truth value is printed as a word. -/
theorem toList_bool (value : Bool) :
    (Printer.value indent level (.bool value)).toList =
      (if value then "true" else "false").toList := by
  cases value <;> simp [Printer.value]

/-- A whole number is printed in its digits. -/
theorem toList_int (value : Int) :
    (Printer.value indent level (.int value)).toList = (toString value).toList := by
  simp [Printer.value]

/-- A text is printed in quotes, with its characters escaped. -/
theorem toList_str (value : String) :
    (Printer.value indent level (.str value)).toList =
      '"' :: (value.toList.flatMap Printer.escape ++ ['"']) := by
  simp [Printer.value, Printer.text]

/-- An empty list and an empty object are a pair of brackets. -/
theorem toList_empty :
    (Printer.value indent level (.list [])).toList = ['[', ']'] ∧
    (Printer.value indent level (.object [])).toList = ['{', '}'] := by
  simp [Printer.value, Printer.items, Printer.fields, Printer.block]

/-- Items stand between brackets, each on its own line. -/
theorem toList_block {texts : List String} (filled : texts ≠ []) (opening closing : String) :
    (Printer.block indent level opening closing texts).toList =
      opening.toList ++ (gap (indent * (level + 1)) ++
        ((',' :: gap (indent * (level + 1))).intercalate (texts.map String.toList) ++
          (gap (indent * level) ++ closing.toList))) := by
  simp [Printer.block, filled, toList_newline, String.toList_intercalate]

/-- The items of a list are printed in turn, one level deeper. -/
theorem toList_list {found : List Json} (filled : found ≠ []) :
    (Printer.value indent level (.list found)).toList = '[' :: (gap (indent * (level + 1)) ++
      ((',' :: gap (indent * (level + 1))).intercalate (found.map (inner indent level)) ++
        (gap (indent * level) ++ [']']))) := by
  have texts : Printer.items indent (level + 1) found =
      found.map (Printer.value indent (level + 1)) := by
    clear filled
    induction found with
    | nil => rfl
    | cons item others ih => rw [Printer.items, ih, List.map_cons]
  rw [Printer.value, texts, toList_block (by simpa using filled), List.map_map]
  rfl

/-- The fields of an object are printed in turn, one level deeper. -/
theorem toList_object {found : Fields} (filled : found ≠ []) :
    (Printer.value indent level (.object found)).toList = '{' :: (gap (indent * (level + 1)) ++
      ((',' :: gap (indent * (level + 1))).intercalate
        (found.map (member (inner indent level))) ++ (gap (indent * level) ++ ['}']))) := by
  have texts : (Printer.fields indent (level + 1) found).map String.toList =
      found.map (member (inner indent level)) := by
    clear filled
    induction found with
    | nil => rfl
    | cons field others ih =>
      rw [Printer.fields, List.map_cons, ih, List.map_cons]
      simp [Printer.text, member, inner]
  have printed : Printer.fields indent (level + 1) found ≠ [] := by
    intro none
    rw [none] at texts
    exact filled (List.map_eq_nil_iff.mp texts.symm)
  rw [Printer.value, toList_block printed, texts]
  rfl

/-- A printed number starts with a sign or a digit. -/
theorem exists_toString (value : Int) :
    ∃ c rest, (toString value).toList = c :: rest ∧ (c = '-' ∨ c.isDigit = true) := by
  rw [toList_toString]
  split
  · obtain ⟨c, rest, start, digit⟩ := exists_toDigits value.toNat
    exact ⟨c, rest, start, .inr digit⟩
  · exact ⟨'-', _, rfl, .inl rfl⟩

/-- A printed value starts with no space, and with no bracket that closes. -/
theorem starts_value {json : Json} (exact : Exact json) :
    Starts (Printer.value indent level json).toList := by
  cases exact with
  | null =>
    rw [toList_null]
    exact ⟨'n', ['u', 'l', 'l'], by simp, by decide, by decide, by decide, by decide⟩
  | bool value =>
    rw [toList_bool]
    cases value
    · exact ⟨'f', ['a', 'l', 's', 'e'], by simp, by decide, by decide, by decide, by decide⟩
    · exact ⟨'t', ['r', 'u', 'e'], by simp, by decide, by decide, by decide, by decide⟩
  | @int value short =>
    obtain ⟨c, rest, start, first⟩ := exists_toString value
    rw [toList_int, start]
    refine ⟨c, rest, rfl, ?_⟩
    rcases first with rfl | digit
    · decide
    · simp [Reader.isSpace, ne_of_isDigit digit]
  | str value =>
    rw [toList_str]
    exact ⟨'"', _, rfl, by decide, by decide, by decide, by decide⟩
  | @list items all =>
    cases items with
    | nil => exact toList_empty.1 ▸ ⟨'[', _, rfl, by decide, by decide, by decide, by decide⟩
    | cons item others =>
      rw [toList_list (by simp)]
      exact ⟨'[', _, rfl, by decide, by decide, by decide, by decide⟩
  | @object fields distinct all =>
    cases fields with
    | nil => exact toList_empty.2 ▸ ⟨'{', _, rfl, by decide, by decide, by decide, by decide⟩
    | cons field others =>
      rw [toList_object (by simp)]
      exact ⟨'{', _, rfl, by decide, by decide, by decide, by decide⟩


end

section

variable {limit depth : Nat} {chars body rest : List Char}

/-- A list that is not empty is read item by item. -/
theorem value_list {found : List Json} (opened : Reader.skip chars = body) (starts : Starts body)
    (read : Reader.items (Reader.value limit depth) (body.length + 1) body = .ok (found, rest)) :
    Reader.value limit (depth + 1) ('[' :: chars) = .ok (.list found, rest) := by
  obtain ⟨c, more, rfl, -, filled, -, -⟩ := starts
  rw [List.length_cons] at read
  simp [Reader.value, opened, filled, read, Except.map]

/-- An object that is not empty is read field by field. If its keys differ, they stay in order. -/
theorem value_object {found : Fields} (opened : Reader.skip chars = body) (starts : Starts body)
    (distinct : found.keys.Nodup)
    (read : Reader.fields (Reader.value limit depth) (body.length + 1) body = .ok (found, rest)) :
    Reader.value limit (depth + 1) ('{' :: chars) = .ok (.object found, rest) := by
  obtain ⟨c, more, rfl, -, -, filled, -⟩ := starts
  rw [List.length_cons] at read
  simp [Reader.value, opened, filled, read, Except.map, Keyed.ofPairs_eq_self distinct]

/-- What is no text, no list and no object is read as a word or a number. -/
theorem value_plain {c : Char} (other : c ≠ '"' ∧ c ≠ '[' ∧ c ≠ '{') (chars : List Char) :
    Reader.value limit (depth + 1) (c :: chars) = Reader.plainValue limit (c :: chars) := by
  simp [Reader.value, other]

end

section

variable {limit indent level depth : Nat}

/-- What is printed inside a list is shorter than the list. -/
theorem length_lt_list {found : List Json} {item : Json} (present : item ∈ found) :
    (inner indent level item).length <
      (Printer.value indent level (.list found)).toList.length := by
  have shorter := length_le_intercalate (',' :: gap (indent * (level + 1)))
    (List.mem_map_of_mem (f := inner indent level) present)
  rw [toList_list (List.ne_nil_of_mem present)]
  simp only [List.length_cons, List.length_append]
  omega

/-- What is printed inside an object is shorter than the object. -/
theorem length_lt_object {found : Fields} {field : String × Json} (present : field ∈ found) :
    (inner indent level field.2).length <
      (Printer.value indent level (.object found)).toList.length := by
  have shorter := length_le_intercalate (',' :: gap (indent * (level + 1)))
    (List.mem_map_of_mem (f := member (inner indent level)) present)
  have within : (inner indent level field.2).length <
      (member (inner indent level) field).length := by
    simp only [member, List.length_cons, List.length_append]
    omega
  rw [toList_object (List.ne_nil_of_mem present)]
  simp only [List.length_cons, List.length_append]
  omega

/-- A list is read back if its items are. -/
theorem value_list_value {found : List Json} (all : ∀ item ∈ found, Exact item)
    (back : ∀ item ∈ found, ∀ rest, Ends rest →
      Reader.value limit depth (inner indent level item ++ rest) = .ok (item, rest))
    (rest : List Char) :
    Reader.value limit (depth + 1) ((Printer.value indent level (.list found)).toList ++ rest) =
      .ok (.list found, rest) := by
  cases found with
  | nil =>
    rw [toList_empty.1]
    rfl
  | cons first others =>
    have starts : ∀ item ∈ first :: others, Starts (inner indent level item) :=
      fun item present => starts_value (all item present)
    obtain ⟨opened, body, room⟩ := skip_intercalate (indent * (level + 1))
      (starts first List.mem_cons_self) (others.map (inner indent level))
      (gap (indent * level) ++ ']' :: rest) rfl
    rw [← List.map_cons, List.length_map] at room
    rw [toList_list (by simp)]
    simp only [List.cons_append, List.append_assoc, List.nil_append]
    exact value_list opened body (items_intercalate (by simp) starts back room rest)

/-- An object is read back if its keys differ and the values of its fields are read back. -/
theorem value_object_value {found : Fields} (distinct : found.keys.Nodup)
    (all : ∀ field ∈ found, Exact field.2)
    (back : ∀ field ∈ found, ∀ rest, Ends rest →
      Reader.value limit depth (inner indent level field.2 ++ rest) = .ok (field.2, rest))
    (rest : List Char) :
    Reader.value limit (depth + 1) ((Printer.value indent level (.object found)).toList ++ rest) =
      .ok (.object found, rest) := by
  cases found with
  | nil =>
    rw [toList_empty.2]
    rfl
  | cons first others =>
    have starts : ∀ field ∈ first :: others, Starts (inner indent level field.2) :=
      fun field present => starts_value (all field present)
    obtain ⟨opened, body, room⟩ := skip_intercalate (indent * (level + 1))
      (starts_member (inner indent level) first) (others.map (member (inner indent level)))
      (gap (indent * level) ++ '}' :: rest) rfl
    rw [← List.map_cons, List.length_map] at room
    rw [toList_object (by simp)]
    simp only [List.cons_append, List.append_assoc, List.nil_append]
    exact value_object opened body distinct (fields_intercalate (by simp) starts back room rest)

end

/-- Every printed value is read back, and what follows it is left. The length of what is printed
bounds the depth. The induction is on the value. -/
theorem value_value {json : Json} (exact : Exact json) (indent level : Nat) {depth : Nat}
    (room : (Printer.value indent level json).toList.length ≤ depth) {rest : List Char}
    (ends : Ends rest) :
    Reader.value Text.digitLimit (depth + 1) ((Printer.value indent level json).toList ++ rest) =
      .ok (json, rest) := by
  induction exact generalizing level depth rest with
  | null =>
    rw [toList_null]
    exact (value_plain (by decide) _).trans (plainValue_null _ rest)
  | bool value =>
    rw [toList_bool]
    refine Eq.trans ?_ (plainValue_bool Text.digitLimit value rest)
    cases value <;> exact value_plain (by decide) _
  | @int value short =>
    obtain ⟨c, more, start, first⟩ := exists_toString value
    have number := plainValue_toString short ends
    rw [toList_int]
    rw [start, List.cons_append] at number ⊢
    refine (value_plain ?_ _).trans number
    rcases first with rfl | digit
    · decide
    · exact ⟨ne_of_isDigit digit (by decide), ne_of_isDigit digit (by decide),
        ne_of_isDigit digit (by decide)⟩
  | str value =>
    rw [toList_str, List.cons_append, List.append_assoc]
    simp [Reader.value, text_text, Except.map]
  | @list items all ih =>
    refine value_list_value all (fun item present rest ends => ?_) rest
    have shorter : (inner indent level item).length < _ := length_lt_list present
    obtain ⟨depth, rfl⟩ : ∃ less, depth = less + 1 := ⟨depth - 1, by omega⟩
    exact ih item present (level + 1) (Nat.le_of_lt_succ (Nat.lt_of_lt_of_le shorter room)) ends
  | @object fields distinct all ih =>
    refine value_object_value distinct all (fun field present rest ends => ?_) rest
    have shorter : (inner indent level field.2).length < _ := length_lt_object present
    obtain ⟨depth, rfl⟩ : ∃ less, depth = less + 1 := ⟨depth - 1, by omega⟩
    exact ih field present (level + 1) (Nat.le_of_lt_succ (Nat.lt_of_lt_of_le shorter room)) ends

/-- What is printed without loss holds no integer with too many digits. -/
theorem Exact.not_holdsLong {json : Json} (exact : Exact json) : ¬ HoldsLong json := by
  induction exact with
  | int short =>
    rw [holdsLong_int, short]
    decide
  | list _ ih =>
    rw [holdsLong_list]
    rintro ⟨item, present, long⟩
    exact ih item present long
  | object _ _ ih =>
    rw [holdsLong_object]
    rintro ⟨field, present, long⟩
    exact ih field present long
  | _ => rintro ⟨⟩

/-- A document that is a printed value is read as that value. -/
theorem parse_value {json : Json} (exact : Exact json) (indent : Nat) :
    parse (Printer.value indent 0 json) = .ok json := by
  have starts : Starts (Printer.value indent 0 json).toList := starts_value exact
  have ends : Ends [] := fun _ none => nomatch none
  have whole := value_value exact indent 0 (Nat.le_refl _) ends
  rw [List.append_nil] at whole
  have document : Reader.document Text.digitLimit (Printer.value indent 0 json).toList =
      .ok json := by
    have unmarked : ¬ ((Printer.value indent 0 json).toList.head? == some '\uFEFF') = true := by
      obtain ⟨c, rest, first, -, -, -, other⟩ := starts
      simp [first, other]
    simp only [Reader.document, if_neg unmarked, starts.skip_eq, whole, bind, Except.bind, pure,
      Except.pure]
    rfl
  rw [parse, parseWithin, document]
  rfl

/-- A value that is printed without loss is printed, and what is printed is read as the value,
whatever the indentation. The values are those without binary numbers and numbers that are too
long, in whose objects keys differ. -/
theorem parse_render {json : Json} (exact : Exact json) (indent : Nat) :
    ∃ text, json.render indent = .ok text ∧ parse text = .ok json :=
  ⟨_, render_eq_ok_iff.mpr ⟨exact.not_holdsLong, rfl⟩, parse_value exact indent⟩

/-! ## Control characters -/

/-- A character that a printed value may hold. -/
def Visible (c : Char) : Prop := c = '\n' ∨ 0x20 ≤ c.toNat

/-- Digits are no control characters. -/
theorem visible_of_isDigit {c : Char} (digit : c.isDigit = true) : Visible c := by
  simp only [Char.isDigit, Bool.and_eq_true, decide_eq_true_eq, UInt32.le_iff_toNat_le] at digit
  have least : 48 ≤ c.toNat := digit.1
  exact .inr (by omega)

/-- A character in quotes is written without control characters. -/
theorem visible_escape (c : Char) : ∀ d ∈ Printer.escape c, Visible d := by
  have digit : ∀ n < 16, 0x20 ≤ (Nat.digitChar n).toNat := by decide
  rcases escape_cases c with ⟨letter, -, printable, -, escaped⟩ | ⟨control, escaped⟩ |
    ⟨-, -, printable, escaped⟩
  · rw [escaped]
    simp [Visible, printable]
  · rw [escaped]
    simp [Visible, digit (c.toNat / 16) (by omega), digit (c.toNat % 16) (by omega)]
  · rw [escaped]
    simp [Visible, printable]

/-- A line break has one line feed, and spaces. -/
theorem visible_gap (width : Nat) : ∀ c ∈ gap width, Visible c := by
  simp [gap, Visible]

/-- A text in quotes is written without control characters. -/
theorem visible_text (s : String) : ∀ c ∈ s.toList.flatMap Printer.escape, Visible c := by
  intro c present
  obtain ⟨d, -, here⟩ := List.mem_flatMap.mp present
  exact visible_escape d c here

/-- Between what is visible stand visible commas and line breaks. -/
theorem visible_intercalate (width : Nat) {texts : List (List Char)}
    (visible : ∀ text ∈ texts, ∀ c ∈ text, Visible c) :
    ∀ c ∈ (',' :: gap width).intercalate texts, Visible c := by
  induction texts with
  | nil => simp
  | cons first others ih =>
    have here := visible first List.mem_cons_self
    have later := ih fun text present => visible text (List.mem_cons_of_mem _ present)
    cases others with
    | nil => simpa using here
    | cons next more =>
      intro c present
      rw [List.intercalate_cons_cons, List.mem_append, List.mem_append] at present
      rcases present with (present | comma) | present
      · exact here c present
      · rcases List.mem_cons.mp comma with rfl | blank
        · exact .inr (by decide)
        · exact visible_gap width c blank
      · exact later c present

/-- So are brackets around it, with line breaks after the one and before the other. -/
theorem visible_block {opening closing : Char} (front : Visible opening) (back : Visible closing)
    (width outer : Nat) {texts : List (List Char)}
    (visible : ∀ text ∈ texts, ∀ c ∈ text, Visible c) :
    ∀ c ∈ opening :: (gap width ++ ((',' :: gap width).intercalate texts ++
      (gap outer ++ [closing]))), Visible c := by
  rw [List.forall_mem_cons, List.forall_mem_append, List.forall_mem_append,
    List.forall_mem_append, List.forall_mem_singleton]
  exact ⟨front, visible_gap width, visible_intercalate width visible, visible_gap outer, back⟩

/-- A field is visible if its value is. -/
theorem visible_member {write : Json → List Char} {field : String × Json}
    (value : ∀ c ∈ write field.2, Visible c) : ∀ c ∈ member write field, Visible c := by
  rw [member, List.forall_mem_cons, List.forall_mem_append, List.forall_mem_cons,
    List.forall_mem_cons, List.forall_mem_cons]
  exact ⟨.inr (by decide), visible_text field.1, .inr (by decide), .inr (by decide),
    .inr (by decide), value⟩

/-- A printed value has line feeds for its line ends, and no other control character. The
induction is on the value. -/
theorem visible_value {json : Json} (exact : Exact json) (indent level : Nat) :
    ∀ c ∈ (Printer.value indent level json).toList, Visible c := by
  induction exact generalizing level with
  | null => simp [toList_null, Visible]
  | bool value => cases value <;> simp [toList_bool, Visible]
  | @int value short =>
    intro c present
    rw [toList_int, toList_toString] at present
    split at present
    · exact visible_of_isDigit (isDigit_of_mem present)
    · rcases List.mem_cons.mp present with rfl | digit
      · exact .inr (by decide)
      · exact visible_of_isDigit (isDigit_of_mem digit)
  | str value =>
    rw [toList_str, List.forall_mem_cons, List.forall_mem_append]
    exact ⟨.inr (by decide), visible_text value, by simp [Visible]⟩
  | @list items all ih =>
    cases items with
    | nil => simp [toList_empty, Visible]
    | cons first others =>
      rw [toList_list (by simp)]
      refine visible_block (.inr (by decide)) (.inr (by decide)) _ _ ?_
      exact List.forall_mem_map.mpr fun item present => ih item present (level + 1)
  | @object fields distinct all ih =>
    cases fields with
    | nil => simp [toList_empty, Visible]
    | cons first others =>
      rw [toList_object (by simp)]
      refine visible_block (.inr (by decide)) (.inr (by decide)) _ _ ?_
      exact List.forall_mem_map.mpr fun field present =>
        visible_member (ih field present (level + 1))

/-- A printed value has no carriage return. -/
theorem no_return_value {json : Json} (exact : Exact json) (indent : Nat) :
    '\r' ∉ (Printer.value indent 0 json).toList := by
  intro present
  rcases visible_value exact indent 0 '\r' present with same | printable
  · exact absurd same (by decide)
  · exact absurd printable (by decide)

end ComponentAtlas.Json
