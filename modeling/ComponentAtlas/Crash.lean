import ComponentAtlas.Json.Display
import ComponentAtlas.Log.Entry

/-!
# Crashes

A crash is a failure that nobody has foreseen. It has a kind and details, which are values:
as a rule what went wrong in words, and for a failure of the system the number of its cause,
the words for it, and the files that are concerned. A crash is shown with its kind, and its
message is made of the details. There is no message if a detail cannot be shown, and telling of
such a crash is a crash again.
-/

namespace ComponentAtlas

/-- A failure that nobody has foreseen. -/
structure Crash where
  kind : String
  details : List Json
  deriving Repr, Inhabited

namespace Crash

/-! ## Failures of the system -/

/-- The kind of all failures of the system. -/
def systemKind : String := "OSError"

/-- The narrower kinds of failures of the system, each with the numbers of its causes. -/
def narrowKinds : List (String × List Int) := [
  ("BlockingIOError", [11, 114, 115]),
  ("BrokenPipeError", [32, 108]),
  ("ChildProcessError", [10]),
  ("ConnectionAbortedError", [103]),
  ("ConnectionRefusedError", [111]),
  ("ConnectionResetError", [104]),
  ("FileExistsError", [17]),
  ("FileNotFoundError", [2]),
  ("InterruptedError", [4]),
  ("IsADirectoryError", [21]),
  ("NotADirectoryError", [20]),
  ("PermissionError", [1, 13]),
  ("ProcessLookupError", [3]),
  ("TimeoutError", [110])]

/-- Other names under which failures of the system are raised. -/
def systemAliases : List String := ["EnvironmentError", "IOError"]

/-- A kind of failures of the system. -/
def isSystemKind (kind : String) : Bool :=
  kind == systemKind || kind == "ConnectionError" || narrowKinds.any (·.1 == kind)

/-- The narrower kind for the number of a cause. -/
def narrowKind? (number : Int) : Option String :=
  (narrowKinds.find? (·.2.contains number)).map (·.1)

/-- Details that begin with the number of a cause and the words for it. -/
def isNumbered (details : List Json) : Bool := 2 ≤ details.length && details.length ≤ 5

/-- The number that a value is. A truth value counts as zero or one. -/
def number? : Json → Option Int
  | .int number => some number
  | .bool value => some (if value then 1 else 0)
  | _ => none

/-- The narrower kind that the details of a failure of the system point to. -/
def kindOf? (details : List Json) : Option String := do
  guard (isNumbered details)
  narrowKind? (← details.head?.bind number?)

/-- A crash as it is raised. A general failure of the system becomes one of the narrower kind
that its cause has. -/
def raised (kind : String) (details : List Json) : Crash :=
  if kind == systemKind || systemAliases.contains kind then
    ⟨(kindOf? details).getD systemKind, details⟩
  else ⟨kind, details⟩

/-! ## Integers that are too long -/

/-- The kind of failures over what a value is. -/
def valueKind : String := "ValueError"

/-- An integer with too many digits was to be written. -/
def tooLongToWrite : Crash := ⟨valueKind, [.str Text.tooLongToWrite]⟩

/-- An integer with too many digits was to be read. -/
def tooLongToRead (digits : Nat) : Crash := ⟨valueKind, [.str (Text.tooLongToRead digits)]⟩

/-! ## Words -/

/-- Several details in one row. -/
def row? (details : List Json) : Option String := do
  return "(" ++ ", ".intercalate (← Json.quotedItems? details) ++ ")"

/-- The details of a crash that is nothing special: none, one as it is, or several in a row. -/
def plainMessage? : List Json → Option String
  | [] => some ""
  | [detail] => detail.plain?
  | details => row? details

/-- A file that a failure of the system is about, if it is named. -/
def file? : Option Json → Option Json
  | some .null | none => none
  | some file => some file

/-- A value that stands in the place of a file and is the amount that was written before a
device was busy. -/
def isAmount (kind : String) (file : Option Json) : Bool :=
  kind == "BlockingIOError" &&
    match file with
    | some (.int _) | some (.bool _) | some (.float _) => true
    | _ => false

/-- The details of a failure of the system: the number of its cause, the words for it, the file
that is concerned and the file that it was to become. -/
def systemMessage? (kind : String) (details : List Json) : Option String :=
  match details with
  | number :: words :: more =>
    if !isNumbered details then row? details
    else do
      let number ← number.plain?
      let words ← words.plain?
      let cause := s!"[Errno {number}] {words}"
      match if isAmount kind more[0]? then none else file? more[0]? with
      | none => return cause
      | some file =>
        let file ← file.quoted?
        match file? more[2]? with
        | none => return s!"{cause}: {file}"
        | some target =>
          let target ← target.quoted?
          return s!"{cause}: {file} -> {target}"
  | _ => plainMessage? details

/-- The crash in words. A key that is not found is quoted. -/
def message? (crash : Crash) : Option String :=
  if isSystemKind crash.kind then systemMessage? crash.kind crash.details
  else
    match crash.details with
    | [key] => if crash.kind == "KeyError" then key.quoted? else key.plain?
    | details => plainMessage? details

/-- The crash in words, for what cannot do without them. -/
def message (crash : Crash) : Except Crash String :=
  match crash.message? with
  | some text => .ok text
  | none => .error tooLongToWrite

/-- The crash with its kind. Here a message that is missing is made up for. -/
def account (crash : Crash) : String :=
  match crash.message? with
  | some text => if text.isEmpty then crash.kind else s!"{crash.kind}: {text}"
  | none => s!"{crash.kind}: <exception str() failed>"

/-- What the log says of a crash that nobody has handled. -/
def entry (crash : Crash) : Except Crash Log.Entry := do
  let message ← crash.message
  return ⟨.critical, Log.Channel.supervision,
    s!"FATAL EXCEPTION DETECTED: {message}\n{crash.account}\n"⟩

/-- A line that sets a notice off. -/
def rule : String := String.ofList (List.replicate 80 '=')

/-- What a user is told of a crash that nobody has handled, line by line. -/
def notice (crash : Crash) : List String :=
  ["", rule, "CRITICAL ERROR (COMPONENT INVENTORY)", rule, crash.account, ""]

end Crash

end ComponentAtlas
