import ComponentAtlas.Config.Basic
import ComponentAtlas.Crash
import ComponentAtlas.Text.Digit
import ComponentAtlas.Path.Resolution

/-!
# Validating configurations

Raw data becomes a configuration field by field, in a fixed order. Lenient validation puts
a fallback in the place of a value that does not fit, converts some values that nearly fit,
and warns of both. Strict validation refuses the first value that does not fit and converts
nothing. A missing or null field takes its default without a word, as does a text that is
blank.

What becomes of the fields is settled first, by `validate`; what is said of them is put into words
after that, by `review`. Words may fail: a value that does not fit is shown in them, and one that
holds an integer with too many digits cannot be shown. Then validation fails as a whole, in both
modes.
-/

namespace ComponentAtlas.Config

/-- Whether values that do not fit are replaced or refused. -/
inductive Mode where
  | lenient
  | strict
  deriving Repr, DecidableEq

/-- What a field is expected to hold. -/
inductive Expected where
  | text
  | truth
  | texts
  deriving Repr, DecidableEq

/-- The word for what is expected. -/
def Expected.label : Expected → String
  | .text => "str"
  | .truth => "bool"
  | .texts => "list[str]"

/-- Why a value does not fit. -/
inductive Misfit where
  | noObject (found : String)
  | wrongKind (field : String) (expected : Expected) (found : String)
  | noCount (field : String) (shown : Option String)
  | itemNoText (field : String) (index : Nat)
  | dotless (extension : String)
  deriving Repr, DecidableEq

/-- The misfit in words, unless the value that does not fit cannot be shown in them. -/
def Misfit.message? : Misfit → Option String
  | .noObject found => some s!"Invalid config type: expected dict, received {found}."
  | .wrongKind field expected found =>
    some s!"Invalid field '{field}': expected {expected.label}, received {found}."
  | .noCount field shown => shown.map fun shown =>
    s!"Invalid field '{field}': expected positive int, received {shown}."
  | .itemNoText field index => some s!"Invalid item in '{field}[{index}]': expected str."
  | .dotless extension => some s!"Invalid extension '{extension}': must start with '.'."

/-- What lenient validation reports. -/
inductive Warning where
  | replaced (misfit : Misfit)
  | unknownField (name : String)
  | truthFromNumber (field : String) (shown : Option String)
  | truthFromText (field text : String) (value : Bool)
  | countFromText (field text : String)
  | textsFromText (field : String)
  | dotAdded (extension corrected : String)
  deriving Repr, DecidableEq

/-- What is put in the place of a value that does not fit. -/
def Misfit.remedy : Misfit → String
  | .noObject _ => "Using defaults."
  | .itemNoText _ _ => "Item discarded."
  | _ => "Using fallback."

/-- The warning in words, unless a value cannot be shown in them. -/
def Warning.message? : Warning → Option String
  | .replaced misfit => misfit.message?.map fun message => message ++ " " ++ misfit.remedy
  | .unknownField name => some s!"Unknown field '{name}' ignored."
  | .truthFromNumber field shown => shown.map fun shown =>
    s!"Field '{field}' converted from number {shown} to bool."
  | .truthFromText field text value =>
    some (s!"Field '{field}' converted from '{text}' to " ++ (if value then "True." else "False."))
  | .countFromText field text => some s!"Field '{field}' converted from '{text}' to int."
  | .textsFromText field => some s!"Field '{field}' converted from CSV string to list."
  | .dotAdded extension corrected => some s!"Extension '{extension}' corrected to '{corrected}'."

/-- A value with the warnings that it took, or the misfit that was refused. -/
def Checked (α : Type) := Except Misfit (α × List Warning)

namespace Checked

/-- A value that took no warning. -/
def accept {α : Type} (value : α) : Checked α := .ok (value, [])

/-- Goes on with a value; the warnings of both steps are kept in order. -/
def andThen {α β : Type} (first : Checked α) (next : α → Checked β) : Checked β :=
  match first with
  | .error misfit => .error misfit
  | .ok (value, warnings) =>
    match next value with
    | .error misfit => .error misfit
    | .ok (result, more) => .ok (result, warnings ++ more)

/-- Checks are steps in turn. -/
instance : Monad Checked where
  pure := accept
  bind := andThen

end Checked

/-- Reports a warning. -/
def warn (warning : Warning) : Checked Unit := .ok ((), [warning])

/-- A value that does not fit: refused, or replaced by a fallback with a warning. -/
def misfit {α : Type} (mode : Mode) (fallback : α) (found : Misfit) : Checked α :=
  match mode with
  | .strict => .error found
  | .lenient => .ok (fallback, [.replaced found])

/-! ## Fields -/

/-- A text without the blanks around it, or the fallback if nothing is left. -/
def checkText (mode : Mode) (field fallback : String) : Json → Checked String
  | .null => pure fallback
  | .str text =>
    let trimmed := Text.trim text
    pure (if trimmed.isEmpty then fallback else trimmed)
  | other => misfit mode fallback (.wrongKind field .text other.kindName)

/-- The truth value that a word stands for. Capitals do not matter. -/
def readTruth? (text : String) : Option Bool :=
  let word := String.ofList ((Text.trim text).toList.map Char.toLower)
  if ["true", "1", "yes", "y"].contains word then some true
  else if ["false", "0", "no", "n"].contains word then some false
  else none

/-- The truth value that a number stands for. -/
def numberTruth? : Json → Option Bool
  | .int value => if value == 1 then some true else if value == 0 then some false else none
  | .float value => if value.isOne then some true else if value.isZero then some false else none
  | _ => none

/-- The conversion of a value to a truth value, with its warning. -/
def convertTruth? (field : String) : Json → Option (Bool × Warning)
  | .str text => (readTruth? text).map fun value => (value, .truthFromText field text value)
  | other => (numberTruth? other).map fun value => (value, .truthFromNumber field other.plain?)

/-- A truth value. Lenient validation converts the numbers zero and one and some words. -/
def checkTruth (mode : Mode) (field : String) (fallback : Bool) : Json → Checked Bool
  | .bool value => pure value
  | .null => pure fallback
  | other =>
    match mode, convertTruth? field other with
    | .lenient, some (value, warning) => do
      warn warning
      return value
    | _, _ => misfit mode fallback (.wrongKind field .truth other.kindName)

/-- The pieces of a text between commas that are not blank, each without the blanks around
it. -/
def splitList (text : String) : List String :=
  ((text.splitOn ",").map Text.trim).filter (!·.isEmpty)

/-- The texts among the items of a list, without the blanks around them and without those
that are blank. -/
def checkItems (mode : Mode) (field : String) : Nat → List Json → Checked (List String)
  | _, [] => pure []
  | index, .str text :: rest => do
    let texts ← checkItems mode field (index + 1) rest
    let trimmed := Text.trim text
    return if trimmed.isEmpty then texts else trimmed :: texts
  | index, _ :: rest => do
    misfit mode () (.itemNoText field index)
    checkItems mode field (index + 1) rest

/-- A list of texts, or the fallback if none is left. Lenient validation splits a text at
its commas. -/
def checkTexts (mode : Mode) (field : String) (fallback : List String) :
    Json → Checked (List String)
  | .null => pure fallback
  | .list items => do
    let texts ← checkItems mode field 0 items
    return if texts.isEmpty then fallback else texts
  | .str text =>
    match mode with
    | .lenient =>
      let texts := splitList text
      if texts.isEmpty then pure fallback
      else do
        warn (.textsFromText field)
        return texts
    | .strict => misfit mode fallback (.wrongKind field .texts (Json.str text).kindName)
  | other => misfit mode fallback (.wrongKind field .texts other.kindName)

/-- The whole number that a value gives, if any. Lenient validation reads it from a text. -/
def readCount (mode : Mode) (field : String) : Json → Checked (Option Int)
  | .int value => pure (some value)
  | .str text =>
    match mode, Text.readInteger? (Text.trim text) with
    | .lenient, some value => do
      warn (.countFromText field text)
      return some value
    | _, _ => pure none
  | _ => pure none

/-- A whole number from one on. -/
def checkCount (mode : Mode) (field : String) (fallback : Nat) : Json → Checked Nat
  | .null => pure fallback
  | value => do
    match ← readCount mode field value with
    | some number =>
      if 1 ≤ number then return number.toNat
      else misfit mode fallback (.noCount field value.quoted?)
    | none => misfit mode fallback (.noCount field value.quoted?)

/-- Extensions that all start with a dot. Lenient validation puts a missing dot in front. -/
def checkDots (mode : Mode) : List String → Checked (List String)
  | [] => pure []
  | extension :: rest => do
    let trimmed := Text.trim extension
    if trimmed.isEmpty then checkDots mode rest
    else if trimmed.toList.head? == some '.' then
      return trimmed :: (← checkDots mode rest)
    else
      match mode with
      | .strict => misfit mode [] (.dotless extension)
      | .lenient =>
        let corrected := "." ++ trimmed
        warn (.dotAdded extension corrected)
        return corrected :: (← checkDots mode rest)

/-! ## Whole configurations -/

/-- The names of fields that are not known, in rising order. -/
def unknownFields (fields : Json.Fields) : List String :=
  (fields.keys.filter (!knownKeys.contains ·)).mergeSort (fun a b => decide (a ≤ b))

/-- The value of a field, or its default. -/
def given (defaults : Config) (fields : Json.Fields) (key : String) : Json :=
  ((fields.get? key).or (defaults.toFields.get? key)).getD .null

/-- The configuration that the fields of an object give. -/
def validateFields (cwd : String) (mode : Mode) (fields : Json.Fields) : Checked Config := do
  let defaults := standard cwd
  let value := given defaults fields
  (unknownFields fields).forM fun name => warn (.unknownField name)
  let inputPath ← checkText mode "input_path" defaults.inputPath (value "input_path")
  let basePath ← checkText mode "base_path" defaults.basePath (value "base_path")
  let includePath ← checkText mode "include_path" defaults.includePath (value "include_path")
  let includeNested ← checkTruth mode "include_nested_definitions" defaults.includeNested
    (value "include_nested_definitions")
  let extensions ← checkTexts mode "extensions" defaults.extensions (value "extensions")
  let excludePatterns ← checkTexts mode "exclude_patterns" defaults.excludePatterns
    (value "exclude_patterns")
  let refForwardingWrappers ← checkTexts mode "ref_forwarding_wrappers"
    defaults.refForwardingWrappers (value "ref_forwarding_wrappers")
  let frameworkNamespaces ← checkTexts mode "framework_namespaces"
    defaults.frameworkNamespaces (value "framework_namespaces")
  let componentBaseClasses ← checkTexts mode "component_base_classes"
    defaults.componentBaseClasses (value "component_base_classes")
  let maxWorkers ← checkCount mode "max_workers" defaults.maxWorkers (value "max_workers")
  let dotted ← checkDots mode extensions
  return {
    inputPath, basePath, includePath := Path.toPosix includePath
    extensions := if dotted.isEmpty then defaultExtensions else dotted
    excludePatterns, includeNested, refForwardingWrappers, frameworkNamespaces
    componentBaseClasses, maxWorkers }

/-- The configuration that raw data gives. Only an object has fields. -/
def validate (cwd : String) (mode : Mode) : Json → Checked Config
  | .object fields => validateFields cwd mode fields
  | other => misfit mode (standard cwd) (.noObject other.kindName)

/-- Lenient validation, which refuses nothing. -/
def validated (cwd : String) (given : Json) : Config × List Warning :=
  match validate cwd .lenient given with
  | .ok result => result
  | .error _ => (standard cwd, [])

/-! ## Words -/

/-- Why validation fails: a misfit that was refused, in words, or words that cannot be found. -/
inductive Refusal where
  | misfit (found : Misfit) (message : String)
  | unspeakable
  deriving Repr, DecidableEq

/-- A misfit that is refused, put into words. -/
def Refusal.ofMisfit (found : Misfit) : Refusal := found.message?.elim .unspeakable (.misfit found)

/-- A refusal is a crash for whoever does not expect it. -/
def Refusal.crash : Refusal → Crash
  | .misfit (.noCount ..) message | .misfit (.dotless _) message =>
    ⟨Crash.valueKind, [.str message]⟩
  | .misfit _ message => ⟨"TypeError", [.str message]⟩
  | .unspeakable => Crash.tooLongToWrite

/-- The configuration that raw data gives, with the warnings in words. -/
def review (cwd : String) (mode : Mode) (raw : Json) : Except Refusal (Config × List String) :=
  match validate cwd mode raw with
  | .error found => .error (.ofMisfit found)
  | .ok (config, warnings) =>
    match warnings.mapM Warning.message? with
    | some messages => .ok (config, messages)
    | none => .error .unspeakable

/-- What lenient validation says besides its warnings. -/
def validationEntries : Json → List Log.Entry
  | .object _ => []
  | other => (Misfit.noObject other.kindName).message?.toList.map fun message =>
    ⟨.warning, Log.Channel.validation, message⟩

end ComponentAtlas.Config
