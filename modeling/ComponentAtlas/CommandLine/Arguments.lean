import ComponentAtlas.CommandLine.Flag
import ComponentAtlas.Config.Validation
import ComponentAtlas.Text.Digit
import ComponentAtlas.Text.Quoted

/-!
# Arguments of the command line

The words of a command line are first told apart: flags with what is attached to their names,
plain words, and a pair of dashes after which all words are plain. Then flags take their
values, from what is attached or from the word that follows, and the last value of a flag
counts. Nothing else belongs on a command line, so any word that is left is refused at the
end. A call for help ends the reading where it stands.
-/

namespace ComponentAtlas.CommandLine

/-- What a command line asks for. -/
structure Arguments where
  inputPath : Option String
  basePath : Option String
  includePath : Option String
  extensions : Option String
  excludePatterns : Option String
  nested : Bool
  maxWorkers : Option Int
  jsonOutput : Bool
  outputFile : Option String
  printTree : Bool
  treeFile : Option String
  configFile : Option String
  saveConfigFile : Option String
  dumpConfig : Bool
  debug : Bool
  logFile : Option String
  deriving Repr, DecidableEq

/-- A command line that asks for nothing. -/
def Arguments.none : Arguments :=
  ⟨.none, .none, .none, .none, .none, false, .none, false, .none, false, .none, .none, .none,
    false, false, .none⟩

/-- How the reading of a command line ends. -/
inductive Reading where
  | arguments (found : Arguments)
  | help
  | refused (refusal : Refusal)
  deriving Repr, DecidableEq

/-- The refusal in words. -/
def Refusal.message : Refusal → String
  | .ambiguous written candidates =>
    "ambiguous option: " ++ written ++ " could match " ++ ", ".intercalate candidates
  | .noValue flag => s!"argument {flag.label}: expected one argument"
  | .needless flag value =>
    s!"argument {flag.label}: ignored explicit argument {Text.Quoted.encode value}"
  | .noNumber flag value =>
    s!"argument {flag.label}: invalid int value: {Text.Quoted.encode value}"
  | .unrecognised words => "unrecognized arguments: " ++ " ".intercalate words

/-! ## Words -/

/-- A row of digits, which is not empty. -/
def isNumeral (chars : List Char) : Bool := !chars.isEmpty && chars.all Text.isDecimalDigit

/-- A text that looks like a negative number: a dash and digits, with one point at most. A
line feed may end it. -/
def isNegativeNumber (text : String) : Bool :=
  match text.toList with
  | '-' :: rest =>
    let number := if rest.getLast? == some '\n' then rest.dropLast else rest
    isNumeral number ||
      (match number.span Text.isDecimalDigit with
        | (_, '.' :: fraction) => isNumeral fraction
        | _ => false)
  | _ => false

/-- The flag that a word names in full before an equals sign, with the value after it. -/
def equatedFlag? (text : String) : Option Word := do
  let (name, value) ← equation? text
  let named ← Flag.ofName? name
  return .flag named name (.equated value)

/-- What a word is that starts with a dash and names no flag in full. It is plain only if it
looks like a negative number or has a space in it. -/
def Word.ofReadings (text : String) : List Word → Except Refusal Word
  | [word] => .ok word
  | [] =>
    if isNegativeNumber text || text.toList.contains ' ' then .ok (.plain text)
    else .ok (.strange text)
  | many => .error (.ambiguous text (many.map Word.text))

/-- Tells what a word is. -/
def Word.ofText (text : String) : Except Refusal Word :=
  if text.toList.head? != some '-' || text == "-" then .ok (.plain text)
  else
    match Flag.ofName? text, equatedFlag? text with
    | some named, _ => .ok (.flag named text .nothing)
    | .none, some word => .ok word
    | .none, .none => Word.ofReadings text (readings text)

/-- Tells what the words of a command line are. -/
def words : List String → Except Refusal (List Word)
  | [] => .ok []
  | "--" :: rest => .ok (.separator :: rest.map .plain)
  | text :: rest => do
    let word ← Word.ofText text
    return word :: (← words rest)

/-! ## Values -/

/-- A flag that was given, with its value. -/
structure Given where
  flag : Flag
  value : String
  deriving Repr, DecidableEq

/-- What a word with flags comes to: the flags without the last one's value, and what is left
over of the word. -/
inductive Bundle where
  /-- The flags are complete. -/
  | complete (given : List Given)
  /-- The flags are complete, and a piece of the word is left. -/
  | leftover (given : List Given) (text : String)
  /-- The last flag takes its value from the next word. -/
  | open (given : List Given) (flag : Flag)
  deriving Repr, DecidableEq

/-- The flags in one word, of which `first` is known. Behind a short switch, more short flags may
be joined. -/
def bundle (first : Flag) : Attached → Except Refusal Bundle
  | .nothing =>
    .ok (if first.isSwitch then .complete [⟨first, ""⟩] else .open [] first)
  | .equated value =>
    if first.isSwitch then .error (.needless first value) else .ok (.complete [⟨first, value⟩])
  | .joined value =>
    if first.isSwitch then joined first value.toList else .ok (.complete [⟨first, value⟩])
where
  /-- What is joined to a short switch. -/
  joined (switch : Flag) : List Char → Except Refusal Bundle
    | [] => .error (.needless switch "")
    | '-' :: rest => .error (.needless switch (String.ofList ('-' :: rest)))
    | c :: rest =>
      let name := String.ofList ['-', c]
      match Flag.ofName? name with
      | none => .ok (.leftover [⟨switch, ""⟩] (String.ofList ('-' :: c :: rest)))
      | some flag => do
        let value := String.ofList rest
        let inner ←
          if flag.isSwitch then
            match rest with
            | [] => .ok (Bundle.complete [⟨flag, ""⟩])
            | '=' :: tail => .error (.needless flag (String.ofList tail))
            | _ => joined flag rest
          else
            match rest with
            | [] => .ok (.open [] flag)
            | '=' :: tail => .ok (.complete [⟨flag, String.ofList tail⟩])
            | _ => .ok (.complete [⟨flag, value⟩])
        return match inner with
          | .complete given => .complete (⟨switch, ""⟩ :: given)
          | .leftover given text => .leftover (⟨switch, ""⟩ :: given) text
          | .open given flag => .open (⟨switch, ""⟩ :: given) flag

/-- Takes a flag that was given into account. -/
def Arguments.take (arguments : Arguments) (given : Given) : Reading :=
  let value := some given.value
  match given.flag with
  | .help => .help
  | .input => .arguments { arguments with inputPath := value }
  | .base => .arguments { arguments with basePath := value }
  | .includePath => .arguments { arguments with includePath := value }
  | .extensions => .arguments { arguments with extensions := value }
  | .exclude => .arguments { arguments with excludePatterns := value }
  | .nested => .arguments { arguments with nested := true }
  | .workers =>
    match Text.readInteger? given.value with
    | some number => .arguments { arguments with maxWorkers := some number }
    | Option.none => .refused (.noNumber .workers given.value)
  | .json => .arguments { arguments with jsonOutput := true }
  | .output => .arguments { arguments with outputFile := value }
  | .printTree => .arguments { arguments with printTree := true }
  | .treeFile => .arguments { arguments with treeFile := value }
  | .config => .arguments { arguments with configFile := value }
  | .saveConfig => .arguments { arguments with saveConfigFile := value }
  | .dumpConfig => .arguments { arguments with dumpConfig := true }
  | .debug => .arguments { arguments with debug := true }
  | .logFile => .arguments { arguments with logFile := value }

/-- Takes flags into account in turn, up to one that ends the reading. -/
def Arguments.takeAll (arguments : Arguments) : List Given → Reading
  | [] => .arguments arguments
  | given :: rest =>
    match arguments.take given with
    | .arguments next => next.takeAll rest
    | other => other

/-- Goes on with what a reading has come to. -/
def Reading.andThen (reading : Reading) (next : Arguments → Reading) : Reading :=
  match reading with
  | .arguments found => next found
  | other => other

/-- Reads words from some place on, given what was read before and the words that are left
over. -/
def readWords (arguments : Arguments) (left : List String) : List Word → Reading
  | [] => if left.isEmpty then .arguments arguments else .refused (.unrecognised left)
  | .flag flag _ attached :: rest =>
    match bundle flag attached with
    | .error refusal => .refused refusal
    | .ok (.complete given) =>
      (arguments.takeAll given).andThen fun next => readWords next left rest
    | .ok (.leftover given text) =>
      (arguments.takeAll given).andThen fun next => readWords next (left ++ [text]) rest
    | .ok (.open given last) =>
      match rest with
      | .plain value :: later =>
        (arguments.takeAll (given ++ [⟨last, value⟩])).andThen fun next =>
          readWords next left later
      | _ => .refused (.noValue last)
  | word :: rest => readWords arguments (left ++ [word.text]) rest

/-- Reads a command line. -/
def read (texts : List String) : Reading :=
  match words texts with
  | .error refusal => .refused refusal
  | .ok words => readWords .none [] words

/-! ## Configuration -/

/-- A text as a value, null if it is missing. -/
def textOrNull : Option String → Json
  | some text => .str text
  | Option.none => .null

/-- A list that is given as a text, unless the text is empty. -/
def listField (key : String) (given : Option String) : Json.Fields :=
  match given.filter (!·.isEmpty) with
  | some text => [(key, .ofStrings (Config.splitList text))]
  | Option.none => []

/-- The values that a command line gives for a configuration. Null stands for one that it does
not give. -/
def Arguments.overrides (arguments : Arguments) : Json.Fields :=
  [("input_path", textOrNull arguments.inputPath),
    ("base_path", textOrNull arguments.basePath),
    ("include_path", textOrNull arguments.includePath),
    ("max_workers", (arguments.maxWorkers.map Json.int).getD .null)]
  ++ listField "extensions" arguments.extensions
  ++ listField "exclude_patterns" arguments.excludePatterns
  ++ (if arguments.nested then [("include_nested_definitions", .bool true)] else [])

end ComponentAtlas.CommandLine
