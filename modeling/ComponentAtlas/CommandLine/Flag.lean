/-!
# Flags of the command line

A flag has one or more names and takes either one value or none. A long name may be cut short
as long as no other name starts the same way. A value may be written behind a long name after
an equals sign, and behind a short one with or without it.
-/

namespace ComponentAtlas.CommandLine

/-- The flags. -/
inductive Flag where
  | help
  | input
  | base
  | includePath
  | extensions
  | exclude
  | nested
  | workers
  | json
  | output
  | printTree
  | treeFile
  | config
  | saveConfig
  | dumpConfig
  | debug
  | logFile
  deriving Repr, DecidableEq

namespace Flag

/-- All flags in order. -/
def all : List Flag := [
  help, input, base, includePath, extensions, exclude, nested, workers, json, output,
  printTree, treeFile, config, saveConfig, dumpConfig, debug, logFile]

/-- The names of a flag. -/
def names : Flag → List String
  | help => ["-h", "--help"]
  | input => ["-i", "--input"]
  | base => ["--base"]
  | includePath => ["--include-path"]
  | extensions => ["--ext"]
  | exclude => ["--exclude"]
  | nested => ["--nested"]
  | workers => ["--workers"]
  | json => ["--json"]
  | output => ["-o", "--output"]
  | printTree => ["--print-tree"]
  | treeFile => ["--tree-file"]
  | config => ["--config"]
  | saveConfig => ["--save-config"]
  | dumpConfig => ["--dump-config"]
  | debug => ["--debug"]
  | logFile => ["--log-file"]

/-- A flag that takes no value. -/
def isSwitch : Flag → Bool
  | help | nested | json | printTree | dumpConfig | debug => true
  | _ => false

/-- The flag in messages. -/
def label (flag : Flag) : String := "/".intercalate flag.names

/-- Every name with its flag, in order. -/
def named : List (String × Flag) := all.flatMap fun flag => flag.names.map fun name => (name, flag)

/-- The flag of a name. -/
def ofName? (name : String) : Option Flag := named.lookup name

end Flag

/-- How a value is written behind a name: not at all, after an equals sign, or directly. -/
inductive Attached where
  | nothing
  | equated (value : String)
  | joined (value : String)
  deriving Repr, DecidableEq

/-- What a word of a command line is. -/
inductive Word where
  | flag (flag : Flag) (name : String) (attached : Attached)
  | strange (text : String)
  | separator
  | plain (text : String)
  deriving Repr, DecidableEq

/-- The word as it was written where it is not recognised. -/
def Word.text : Word → String
  | flag _ name _ => name
  | strange text => text
  | separator => "--"
  | plain text => text

/-- Why a command line is refused. -/
inductive Refusal where
  | ambiguous (written : String) (candidates : List String)
  | noValue (flag : Flag)
  | needless (flag : Flag) (value : String)
  | noNumber (flag : Flag) (value : String)
  | unrecognised (words : List String)
  deriving Repr, DecidableEq

/-- What stands before the first equals sign of a text, and what stands after it. -/
def equation? (text : String) : Option (String × String) :=
  match text.toList.span (· != '=') with
  | (name, _ :: value) => some (String.ofList name, String.ofList value)
  | _ => none

/-- The flags that a name may be short for, each with its full name. -/
def completions (start : String) : List (String × Flag) :=
  Flag.named.filter fun (name, _) => start.toList.isPrefixOf name.toList

/-- The flags that a word after two dashes may mean. -/
def longReadings (text : String) : List Word :=
  match equation? text with
  | some (start, value) =>
    (completions start).map fun (name, flag) => .flag flag name (.equated value)
  | none => (completions text).map fun (name, flag) => .flag flag name .nothing

/-- The flags that a word after one dash may mean: the one that its first letter names. -/
def shortReadings (text : String) : List Word :=
  let name := String.ofList (text.toList.take 2)
  let rest := String.ofList (text.toList.drop 2)
  ((Flag.ofName? name).map fun flag => Word.flag flag name (.joined rest)).toList

/-- The flags that a word may mean. -/
def readings (text : String) : List Word :=
  if ['-', '-'].isPrefixOf text.toList then longReadings text else shortReadings text

end ComponentAtlas.CommandLine
