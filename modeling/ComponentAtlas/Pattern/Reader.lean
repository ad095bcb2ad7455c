import ComponentAtlas.Pattern.Basic
import ComponentAtlas.Text.Digit
import ComponentAtlas.Text.Word

/-!
# Reading patterns

A backslash and the character after it are one token, so the text is cut into tokens before
it is read. Reading keeps track of the groups that are open and closed, since a pattern may
refer to closed groups only, and of the flags that are set for the whole pattern, which have
to come first.

Every step takes a token from the text or enters a part that starts with one. Reading
carries an allowance of twice the number of tokens, which these steps cannot use up.
-/

namespace ComponentAtlas.Pattern

/-- A character of a pattern, alone or after a backslash. -/
inductive Token where
  | plain (c : Char)
  | escaped (c : Char)
  deriving Repr, DecidableEq

/-- Cuts a text into tokens. A backslash at the end is none. -/
def tokens? : List Char → Option (List Token)
  | [] => some []
  | ['\\'] => none
  | '\\' :: c :: rest => (tokens? rest).map (.escaped c :: ·)
  | c :: rest => (tokens? rest).map (.plain c :: ·)

/-- What reading has come to. -/
structure Progress where
  rest : List Token
  /-- The number that the next group gets. -/
  nextGroup : Nat
  /-- The groups that are closed, with their widths. -/
  closed : List (Nat × Width)
  /-- The groups that have names. -/
  names : List (String × Nat)
  /-- Where something looks behind: the number of the first group inside it. -/
  behind : Option Nat
  /-- The groups that conditions ask for. -/
  asked : List Nat
  /-- The flags of the whole pattern. -/
  flags : List Flag

/-- A step of reading. -/
abbrev Reading := StateT Progress (Except Refusal)

namespace Reading

/-- Gives up. -/
def fail {α : Type} : Reading α := throw .malformed

/-- Gives up unless a condition holds. -/
def check (condition : Bool) : Reading Unit := if condition then pure () else fail

/-- The next token, which stays. -/
def peek : Reading (Option Token) := return (← get).rest.head?

/-- Takes the next token. -/
def next? : Reading (Option Token) := do
  let progress ← get
  match progress.rest with
  | [] => return none
  | token :: rest =>
    set { progress with rest }
    return some token

/-- Takes the next token, which has to be there. -/
def next : Reading Token := do
  match ← next? with
  | some token => return token
  | none => fail

/-- Takes the next token if it is a given character. -/
def accept (c : Char) : Reading Bool := do
  if (← peek) == some (.plain c) then
    discard next?
    return true
  else return false

/-- Takes a character that has to come next. -/
def expect (c : Char) : Reading Unit := do check (← accept c)

/-- The characters at the head of some tokens that pass a test. -/
def leading (test : Char → Bool) : List Token → List Char
  | .plain c :: rest => if test c then c :: leading test rest else []
  | _ => []

/-- Takes characters that pass a test, at most as many as given. -/
def takeWhile (most : Nat) (test : Char → Bool) : Reading (List Char) := do
  let progress ← get
  let taken := (leading test progress.rest).take most
  set { progress with rest := progress.rest.drop taken.length }
  return taken

/-- What stands before a character, and what follows it. -/
def splitAt (stop : Char) : List Token → Option (List Char × List Token)
  | [] => none
  | .plain c :: rest =>
    if c == stop then some ([], rest)
    else (splitAt stop rest).map fun (chars, after) => (c :: chars, after)
  | .escaped c :: rest => (splitAt stop rest).map fun (chars, after) => ('\\' :: c :: chars, after)

/-- Takes a name up to a character. A name is not empty. -/
def nameBefore (stop : Char) : Reading String := do
  let progress ← get
  match splitAt stop progress.rest with
  | some (chars, rest) =>
    check (!chars.isEmpty)
    set { progress with rest }
    return String.ofList chars
  | none => fail

end Reading

open Reading

/-! ## Characters -/

/-- A digit of the first ten. -/
def isDigit (c : Char) : Bool := '0' ≤ c && c ≤ '9'

/-- A digit below eight. -/
def isOctal (c : Char) : Bool := '0' ≤ c && c ≤ '7'

/-- A digit of a number to base sixteen. -/
def isHex (c : Char) : Bool :=
  isDigit c || ('a' ≤ c && c ≤ 'f') || ('A' ≤ c && c ≤ 'F')

/-- A letter of the first alphabet. -/
def isLetter (c : Char) : Bool := ('a' ≤ c && c ≤ 'z') || ('A' ≤ c && c ≤ 'Z')

/-- The value of a digit. -/
def digitValue (c : Char) : Nat :=
  if isDigit c then c.toNat - 0x30
  else if 'a' ≤ c && c ≤ 'f' then c.toNat - 0x61 + 10
  else c.toNat - 0x41 + 10

/-- The number that digits write. -/
def number (base : Nat) (digits : List Char) : Nat :=
  digits.foldl (fun value c => value * base + digitValue c) 0

/-- The name of a group: word characters, the first of them no digit. -/
def isGroupName (name : String) : Bool :=
  match name.toList with
  | [] => false
  | first :: rest => Text.isWord first && !isDigit first && rest.all Text.isWord

/-- Control characters that have a letter. -/
def control? : Char → Option Nat
  | 'a' => some 7
  | 'f' => some 12
  | 'n' => some 10
  | 'r' => some 13
  | 't' => some 9
  | 'v' => some 11
  | '\\' => some 0x5C
  | _ => none

/-- Classes of characters that have a letter; the capital stands for all others. -/
def category? : Char → Option Item
  | 'd' => some (.category .digit false)
  | 'D' => some (.category .digit true)
  | 's' => some (.category .space false)
  | 'S' => some (.category .space true)
  | 'w' => some (.category .word false)
  | 'W' => some (.category .word true)
  | _ => none

/-- Anchors that have a letter. -/
def anchor? : Char → Option Anchor
  | 'A' => some .textStart
  | 'b' => some .boundary
  | 'B' => some .nonBoundary
  | 'Z' => some .textEnd
  | _ => none

/-- The number of hexadecimal digits after a letter that announces a code point. -/
def codeDigits? : Char → Option Nat
  | 'x' => some 2
  | 'u' => some 4
  | 'U' => some 8
  | _ => none

/-- The greatest code point. -/
def lastCode : Nat := 0x10FFFF

/-- A code point given by exactly so many hexadecimal digits. -/
def readCode (digits : Nat) : Reading Nat := do
  let taken ← takeWhile digits isHex
  check (taken.length == digits && number 16 taken ≤ lastCode)
  return number 16 taken

/-- A code point below 256 given by octal digits. -/
def octalCode (digits : List Char) : Reading Nat := do
  check (number 8 digits ≤ 0xFF)
  return number 8 digits

/-- What a backslash and a character stand for inside a set. -/
def readSetEscape (c : Char) : Reading Item := do
  if c == 'b' then return .code 8
  match control? c, category? c, codeDigits? c with
  | some code, _, _ => return .code code
  | _, some item, _ => return item
  | _, _, some digits => return .code (← readCode digits)
  | _, _, _ =>
    if isOctal c then
      return .code (← octalCode (c :: (← takeWhile 2 isOctal)))
    else
      check (!isDigit c && !isLetter c)
      return .code c.toNat

/-! ## Groups -/

/-- A group that may be referred to: it is closed, and does not stand inside what is being
looked behind for. -/
def closedWidth (group : Nat) : Reading Width := do
  let progress ← get
  match progress.closed.lookup group with
  | some width =>
    check (progress.behind.all fun first => group < first)
    return width
  | none => fail

/-- Opens a group, which may have a name of its own. -/
def openGroup (name : Option String) : Reading Nat := do
  let progress ← get
  let group := progress.nextGroup
  match name with
  | some name =>
    check ((progress.names.lookup name).isNone)
    set { progress with nextGroup := group + 1, names := (name, group) :: progress.names }
  | none => set { progress with nextGroup := group + 1 }
  return group

/-- Closes a group. -/
def closeGroup (group : Nat) (body : Node) : Reading Unit :=
  modify fun progress => { progress with closed := (group, body.width) :: progress.closed }

/-- The number of a group that has a name. -/
def groupNamed (name : String) : Reading Nat := do
  check (isGroupName name)
  match (← get).names.lookup name with
  | some group => return group
  | none => fail

/-- The group that a condition asks for, after its parenthesis: by name, or by a number that
may be still to come. What looks behind asks for closed groups only. -/
def readCondition : Reading Nat := do
  let name ← nameBefore ')'
  let group ←
    if isGroupName name then groupNamed name
    else
      match Text.readInteger? name with
      | some value =>
        check (1 ≤ value)
        modify fun progress => { progress with asked := value.toNat :: progress.asked }
        pure value.toNat
      | none => fail
  if (← get).behind.isSome then discard (closedWidth group)
  return group

/-- A reference to a group. -/
def refer (group : Nat) : Reading Node := return .reference group (← closedWidth group)

/-- What a backslash and digits stand for: three octal digits are a code point, other digits
name a group. -/
def readDigits (first : Char) : Reading Node := do
  if first == '0' then
    return .literal (number 8 (first :: (← takeWhile 2 isOctal)))
  match ← takeWhile 1 isDigit with
  | [second] =>
    if isOctal first && isOctal second then
      match ← takeWhile 1 isOctal with
      | [third] => return .literal (← octalCode [first, second, third])
      | _ => refer (number 10 [first, second])
    else refer (number 10 [first, second])
  | _ => refer (number 10 [first])

/-- What a backslash and a character stand for. -/
def readEscape (c : Char) : Reading Node := do
  match category? c, anchor? c, control? c, codeDigits? c with
  | some item, _, _, _ => return .set false [item]
  | _, some anchor, _, _ => return .anchor anchor
  | _, _, some code, _ => return .literal code
  | _, _, _, some digits => return .literal (← readCode digits)
  | _, _, _, _ =>
    if isDigit c then readDigits c
    else
      check (!isLetter c)
      return .literal c.toNat

/-! ## Sets -/

/-- The part of a set that a token stands for. -/
def readItem : Token → Reading Item
  | .plain c => return .code c.toNat
  | .escaped c => readSetEscape c

/-- A set after its opening bracket, given the parts read so far. A closing bracket that comes
first is a part. -/
def readItems : Nat → List Item → Reading (List Item)
  | 0, _ => fail
  | room + 1, items => do
    let token ← next
    if token == .plain ']' && !items.isEmpty then return items.reverse
    let first ← readItem token
    if ← accept '-' then
      let upper ← next
      if upper == .plain ']' then return (.code '-'.toNat :: first :: items).reverse
      match first, ← readItem upper with
      | .code low, .code high =>
        check (low ≤ high)
        readItems room (.range low high :: items)
      | _, _ => fail
    else readItems room (first :: items)

/-- A set after its opening bracket. -/
def readSet (room : Nat) : Reading Node := do
  let negated ← accept '^'
  return .set negated (← readItems room [])

/-! ## Flags -/

/-- A flag that has to be known. -/
def flagOf : Token → Reading Flag
  | .plain c =>
    match Flag.ofChar? c with
    | some flag => pure flag
    | none => fail
  | .escaped _ => fail

/-- Flags that are turned on, the first of which is given, and the character after them. -/
def readOn : Nat → List Flag → Token → Reading (List Flag × Char)
  | 0, _, _ => fail
  | room + 1, flags, token => do
    match token with
    | .plain ')' =>
      check (!flags.isEmpty)
      return (flags, ')')
    | .plain ':' => return (flags, ':')
    | .plain '-' => return (flags, '-')
    | _ =>
      let flag ← flagOf token
      check (!(flag.choosesAlphabet && flags.any fun other =>
        other.choosesAlphabet && other != flag))
      readOn room (flags ++ [flag]) (← next)

/-- Flags that are turned off, up to the colon after them. -/
def readOff : Nat → List Flag → Token → Reading (List Flag)
  | 0, _, _ => fail
  | room + 1, flags, token => do
    if token == .plain ':' && !flags.isEmpty then return flags
    let flag ← flagOf token
    check (!flag.choosesAlphabet)
    readOff room (flags ++ [flag]) (← next)

/-- What flags in parentheses say: flags for the whole pattern, or flags that a group turns on
and off. -/
inductive FlagClause where
  | whole (flags : List Flag)
  | inside (on off : List Flag)

/-- Flags in parentheses from the first of them on. -/
def readFlags (room : Nat) (first : Token) : Reading FlagClause := do
  match ← readOn room [] first with
  | (flags, ')') => return .whole flags
  | (flags, ':') => return .inside flags []
  | (on, _) =>
    let off ← readOff room [] (← next)
    check (!(on.any off.contains))
    return .inside on off

/-! ## Repetition -/

/-- The least and the greatest number of repetitions. -/
structure Count where
  least : Nat
  most : Option Nat

/-- A number of repetitions, below the limit. -/
def countOf (digits : List Char) : Reading Nat :=
  if number 10 digits < countLimit then pure (number 10 digits) else throw .countTooLarge

/-- Numbers of repetitions after an opening brace, if that is what stands there. -/
def readCount? : Reading (Option Count) := do
  let start ← get
  let low ← takeWhile start.rest.length isDigit
  let high ← if ← accept ',' then takeWhile start.rest.length isDigit else pure low
  if (start.rest.head? == some (.plain '\x7d')) || !(← accept '\x7d') then
    set start
    return none
  let least ← if low.isEmpty then pure 0 else countOf low
  let most ← if high.isEmpty then pure none else some <$> countOf high
  check (most.all fun most => least ≤ most)
  return some ⟨least, most⟩

/-- The sign of a repetition, if the token is one. An opening brace may stand for itself. -/
def repetition? : Token → Reading (Option Count)
  | .plain '?' => return some ⟨0, some 1⟩
  | .plain '*' => return some ⟨0, none⟩
  | .plain '+' => return some ⟨1, none⟩
  | .plain '\x7b' => readCount?
  | _ => return none

/-- How eager a repetition is, after its sign. -/
def readGreed : Reading Greed := do
  if ← accept '?' then return .reluctant
  else if ← accept '+' then return .possessive
  else return .greedy

/-- What can be repeated: neither a bare anchor nor a bare repetition. -/
def isRepeatable : Node → Bool
  | .anchor _ | .repeated .. => false
  | _ => true

/-! ## Groups and sequences -/

/-- What a verbose pattern skips. -/
def isFiller (c : Char) : Bool := [' ', '\t', '\n', '\r', '\x0b', '\x0c'].contains c

/-- What follows the end of a line. -/
def afterLine (rest : List Token) : List Token :=
  (rest.dropWhile (· != .plain '\n')).drop 1

/-- The test of a place that a token stands for by itself. -/
def bareAnchor? : Token → Option Anchor
  | .plain '^' => some .lineStart
  | .plain '$' => some .lineEnd
  | _ => none

mutual

/-- Alternatives. `outermost` is true where no parenthesis is open, and `first` where nothing
has been read. -/
def readBranches (room : Nat) (verbose outermost first : Bool) : Reading Node :=
  match room with
  | 0 => fail
  | room + 1 => do
    let branch ← readSequence room verbose first []
    if ← accept '|' then
      let flags := (← get).flags
      let verbose := if outermost then flags.contains .verbose else verbose
      return .either branch (← readBranches room verbose outermost false)
    else return branch

/-- One part after another, given the parts read so far, the last of them first. -/
def readSequence (room : Nat) (verbose first : Bool) (parts : List Node) : Reading Node :=
  match room with
  | 0 => fail
  | room + 1 => do
    match ← peek with
    | none | some (.plain '|') | some (.plain ')') => return .sequence parts.reverse
    | some token =>
      discard next?
      match token with
      | .escaped c => readSequence room verbose first ((← readEscape c) :: parts)
      | .plain c =>
        if verbose && isFiller c then readSequence room verbose first parts
        else if verbose && c == '#' then
          modify fun progress => { progress with rest := afterLine progress.rest }
          readSequence room verbose first parts
        else if c == '[' then
          readSequence room verbose first ((← readSet (room + 1)) :: parts)
        else if c == '.' then readSequence room verbose first (.any :: parts)
        else if c == '(' then
          if ← accept '?' then readExtension room verbose first parts
          else
            let group ← openGroup none
            let body ← readBranches room verbose false false
            expect ')'
            closeGroup group body
            readSequence room verbose first (.capture group body :: parts)
        else
          match bareAnchor? token, ← repetition? token with
          | some anchor, _ => readSequence room verbose first (.anchor anchor :: parts)
          | none, some count =>
            match parts with
            | last :: before =>
              check (isRepeatable last)
              let greed ← readGreed
              readSequence room verbose first
                (.repeated count.least count.most greed last :: before)
            | [] => fail
          | none, none => readSequence room verbose first (.literal c.toNat :: parts)

/-- What follows a question mark at the start of a parenthesis. -/
def readExtension (room : Nat) (verbose first : Bool) (parts : List Node) : Reading Node :=
  match room with
  | 0 => fail
  | room + 1 => do
    let token ← next
    match token with
    | .escaped _ => fail
    | .plain 'P' =>
      if ← accept '<' then
        let name ← nameBefore '>'
        check (isGroupName name)
        let group ← openGroup (some name)
        let body ← readBranches room verbose false false
        expect ')'
        closeGroup group body
        readSequence room verbose first (.capture group body :: parts)
      else
        expect '='
        let group ← groupNamed (← nameBefore ')')
        readSequence room verbose first ((← refer group) :: parts)
    | .plain ':' =>
      let body ← readBranches room verbose false false
      expect ')'
      readSequence room verbose first (.flagged [] [] body :: parts)
    | .plain '>' =>
      let body ← readBranches room verbose false false
      expect ')'
      readSequence room verbose first (.atomic body :: parts)
    | .plain '#' =>
      let rest := (← get).rest.dropWhile (· != .plain ')')
      check (!rest.isEmpty)
      modify fun progress => { progress with rest := rest.drop 1 }
      readSequence room verbose first parts
    | .plain '=' => readAhead room verbose first parts false
    | .plain '!' => readAhead room verbose first parts true
    | .plain '<' =>
      let negated ← accept '!'
      if !negated then expect '='
      let outer := (← get).behind
      modify fun progress => { progress with behind := some (outer.getD progress.nextGroup) }
      let body ← readBranches room verbose false false
      modify fun progress => { progress with behind := outer }
      expect ')'
      readSequence room verbose first (.behind negated body :: parts)
    | .plain '(' =>
      let group ← readCondition
      let whenSet ← readSequence room verbose false []
      let whenUnset ←
        if ← accept '|' then
          let other ← readSequence room verbose false []
          check ((← peek) != some (.plain '|'))
          pure other
        else pure .empty
      expect ')'
      readSequence room verbose first (.conditional group whenSet whenUnset :: parts)
    | .plain _ =>
      match ← readFlags room token with
      | .whole flags =>
        check (first && parts.isEmpty)
        modify fun progress => { progress with flags := progress.flags ++ flags }
        readSequence room ((← get).flags.contains .verbose) first parts
      | .inside on off =>
        let inner := (verbose || on.contains .verbose) && !off.contains .verbose
        let body ← readBranches room inner false false
        expect ')'
        readSequence room verbose first (.flagged on off body :: parts)

/-- A test of what comes, after its sign. -/
def readAhead (room : Nat) (verbose first : Bool) (parts : List Node) (negated : Bool) :
    Reading Node :=
  match room with
  | 0 => fail
  | room + 1 => do
    let body ← readBranches room verbose false false
    expect ')'
    readSequence room verbose first (.ahead negated body :: parts)

end

/-- A whole pattern. Nothing is left over, every group that is asked for is there, and the
flags choose one alphabet. -/
def readWhole (room : Nat) : Reading Compiled := do
  let body ← readBranches room false true true
  let progress ← get
  check progress.rest.isEmpty
  if progress.flags.contains .ascii && progress.flags.contains .unicode then
    throw .clashingAlphabets
  check (progress.asked.all (· < progress.nextGroup))
  check body.looksBehindFixed
  return ⟨.ofFlags progress.flags, body⟩

/-- The pattern that a text writes. -/
def compile (text : String) : Except Refusal Compiled := do
  match tokens? text.toList with
  | some tokens =>
    (readWhole (2 * tokens.length + 2)).run' ⟨tokens, 1, [], [], none, [], []⟩
  | none => .error .malformed

end ComponentAtlas.Pattern
