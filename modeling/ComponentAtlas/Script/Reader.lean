import ComponentAtlas.Script.Character

/-!
# Readers

A reader takes the characters that are left of a script and either fails or returns a
result with the characters after it. A choice tries its second reader from the same
place when the first fails. Repetition stops where its reader fails or reads nothing, so
every reader ends.

Between two tokens there may be blanks and comments. Whether a line ended between them
matters, because a statement may then end without a semicolon; a line that ends inside a
comment does not count.
-/

namespace ComponentAtlas.Script

/-- A reader of a part of a script. -/
abbrev Reader (α : Type) := StateT (List Char) Option α

namespace Reader

variable {α β : Type}

/-- The characters that are left. -/
def left : Reader (List Char) := get

/-- Fails unless the condition holds. -/
def require (condition : Bool) : Reader Unit := if condition then pure () else failure

/-- The result of a reader, without moving. -/
def ahead (reader : Reader α) : Reader α := do
  let here ← get
  let result ← reader
  set here
  return result

/-- A reader that may be absent. -/
def option? (reader : Reader α) : Reader (Option α) := fun here =>
  match reader here with
  | some (result, rest) => some (some result, rest)
  | none => some (none, here)

/-- Reads again and again, at most `limit` times, for as long as something is read. -/
def repeated (reader : Reader α) : Nat → List Char → List α × List Char
  | 0, here => ([], here)
  | limit + 1, here =>
    match reader here with
    | some (result, rest) =>
      if rest.length < here.length then
        let (results, last) := repeated reader limit rest
        (result :: results, last)
      else ([], here)
    | none => ([], here)

/-- Reads for as long as something is read. -/
def many (reader : Reader α) : Reader (List α) := fun here =>
  some (repeated reader here.length here)

/-- One or more, with a separator between two. -/
def separated (separator : Reader β) (reader : Reader α) : Reader (List α) := do
  let first ← reader
  let rest ← many (separator *> reader)
  return first :: rest

/-- The first reader that succeeds. -/
def firstOf : List (Reader α) → Reader α
  | [] => failure
  | reader :: rest => reader <|> firstOf rest

/-- Succeeds, without moving, exactly where a reader fails. -/
def refuse (reader : Reader α) : Reader Unit := fun here =>
  if (reader here).isSome then none else some ((), here)

/-! ## Blanks and comments -/

/-- The characters after a block comment whose opening has been read. -/
def afterBlock? : List Char → Option (List Char)
  | [] => none
  | '*' :: '/' :: rest => some rest
  | _ :: rest => afterBlock? rest

/-- What is left after a block comment is shorter than what was left at it. -/
theorem length_afterBlock? {chars rest : List Char} (closed : afterBlock? chars = some rest) :
    rest.length < chars.length := by
  fun_induction afterBlock? chars with
  | case1 => cases closed
  | case2 after => cases closed; simp only [List.length_cons]; omega
  | case3 c tail _ ih => have := ih closed; simp only [List.length_cons]; omega

/-- What stands between two tokens: whether a line ended, and the characters from the next
token on. -/
structure Gap where
  lineEnded : Bool
  rest : List Char

/-- Skips blanks and comments. A block comment that is never closed is no comment. -/
def gap (lineEnded : Bool) : List Char → Gap
  | [] => ⟨lineEnded, []⟩
  | '/' :: '/' :: rest => gap lineEnded (rest.dropWhile fun c => !isLineEnd c)
  | '/' :: '*' :: rest =>
    match _closed : afterBlock? rest with
    | some after => gap lineEnded after
    | none => ⟨lineEnded, '/' :: '*' :: rest⟩
  | c :: rest =>
    if isBlank c then gap (lineEnded || c == '\n') rest else ⟨lineEnded, c :: rest⟩
termination_by chars => chars.length
decreasing_by
  · have := (List.dropWhile_sublist (fun c => !isLineEnd c) (l := rest)).length_le
    simp only [List.length_cons]; omega
  · have := length_afterBlock? _closed
    simp only [List.length_cons]; omega
  · simp

/-- Moves to the next token. -/
def skip : Reader Unit := modify fun here => (gap false here).rest

/-- A line ended before the next token. -/
def lineEnded : Reader Bool := fun here => some ((gap false here).lineEnded, here)

/-- The next token's first character. -/
def peek? : Reader (Option Char) := fun here => some ((gap false here).rest.head?, here)

/-! ## Tokens -/

/-- Exactly these characters, without skipping before them. -/
def exactly (text : String) : Reader Unit := fun here =>
  if text.toList.isPrefixOf here then some ((), here.drop text.length) else none

/-- A token of punctuation. -/
def symbol (text : String) : Reader Unit := skip *> exactly text

/-- The end of the script. -/
def finish : Reader Unit := do
  skip
  require (← left).isEmpty

/-- Text from an opening to a closing symbol. -/
def between (opening closing : String) (reader : Reader α) : Reader α :=
  symbol opening *> reader <* symbol closing

/-- Items with commas between them and perhaps one after the last. -/
def commaList (reader : Reader α) : Reader (List α) := do
  let items ← separated (symbol ",") reader
  let _ ← option? (symbol ",")
  return items

/-- Items between commas, where items may be left out. -/
def looseList (reader : Reader α) : Reader (List α) := do
  let first ← option? reader
  let rest ← many (symbol "," *> option? reader)
  return (first :: rest).filterMap id

/-! ## Names -/

/-- The longest run of characters that hold a property. -/
def run (holds : Char → Bool) : Reader (List Char) := fun here => some (here.span holds)

/-- A non-empty run. -/
def run1 (holds : Char → Bool) : Reader (List Char) := do
  let found ← run holds
  require !found.isEmpty
  return found

/-- A hexadecimal digit. -/
def isHexDigit (c : Char) : Bool :=
  c.isDigit || ('a' ≤ c && c ≤ 'f') || ('A' ≤ c && c ≤ 'F')

/-- A fixed number of characters that hold a property. -/
def exactCount (holds : Char → Bool) (count : Nat) : Reader (List Char) := do
  let here ← get
  let found := here.take count
  require (found.length == count && found.all holds)
  set (here.drop count)
  return found

/-- The code point of an escape after its `u`: four digits, or digits in braces. -/
def unicodeEscape : Reader (List Char) :=
  (exactCount isHexDigit 4) <|>
    (do exactly "\x7b"; let digits ← run1 isHexDigit; exactly "\x7d"; return digits)

/-- An escape in a name, which stays as it is written. -/
def nameEscape : Reader (List Char) := do
  let here ← get
  exactly "\\u"
  let _ ← unicodeEscape
  return here.take (here.length - (← get).length)

/-- The characters of a name after its start. -/
def nameTail : Reader (List Char) := do
  let plain ← run continuesName
  let escaped ← many (do return (← nameEscape) ++ (← run continuesName))
  return plain ++ escaped.flatten

/-- The characters of a name. -/
def nameChars : Reader (List Char) := do
  let first ← (exactCount startsName 1) <|> nameEscape
  return first ++ (← nameTail)

/-- A name, or a keyword, as it is written. -/
def word : Reader String := do
  skip
  return String.ofList (← nameChars)

/-- A name of a private member, with its sign. -/
def privateName : Reader String := do
  symbol "#"
  return String.ofList ('#' :: (← nameChars))

/-- The given word. -/
def keyword (text : String) : Reader Unit := do
  let found ← word
  require (found == text)

/-- One of the given words. -/
def keywordOf (texts : List String) : Reader String := do
  let found ← word
  require (texts.contains found)
  return found

/-- The next token, if it is a word. -/
def peekWord? : Reader (Option String) := ahead (option? word)

end Reader

end ComponentAtlas.Script
