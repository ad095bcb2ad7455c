import ComponentAtlas.CommandLine.Flag

/-!
# Help

The help names every flag with the value that it takes and what it is for.
-/

namespace ComponentAtlas.CommandLine

/-- The name of the program in its messages. -/
def programName : String := "component-inventory"

namespace Flag

/-- The word that stands for a flag's value. -/
def valueWord : Flag → String
  | input | base => "DIRECTORY"
  | includePath => "FRAGMENT"
  | extensions | exclude => "LIST"
  | workers => "NUMBER"
  | output | treeFile | config | saveConfig | logFile => "FILE"
  | help | nested | json | printTree | dumpConfig | debug => ""

/-- What a flag is for. -/
def purpose : Flag → String
  | help => "Show this help and exit."
  | input => "Root directory to scan (default: current directory)."
  | base => "Directory that reported file paths are relative to (default: the input)."
  | includePath => "Path fragment selecting the reported components (default: components/ui/)."
  | extensions => "Comma-separated list of source extensions."
  | exclude => "Comma-separated list of regexes for excluded file/directory names."
  | nested => "Also register component definitions nested inside other definitions."
  | workers => "Number of parallel analysis workers (default: 1)."
  | json => "Print the inventory as JSON."
  | output => "Write the JSON inventory to this file."
  | printTree => "Print the component trees."
  | treeFile => "Write the component trees to this text file."
  | config => "JSON configuration file merged over the defaults."
  | saveConfig => "Persist the effective configuration to this JSON file."
  | dumpConfig => "Print the effective configuration and exit."
  | debug => "Elevate logging verbosity to DEBUG."
  | logFile => "Also write logs to this rotating file."

/-- A flag as it is written, with the word for its value. -/
def spelling (flag : Flag) : String :=
  let names := ", ".intercalate flag.names
  if flag.isSwitch then names else names ++ " " ++ flag.valueWord

end Flag

/-- The line that shows how the program is called. -/
def usageLine : String := s!"usage: {programName} [option ...]"

/-- The help line by line. -/
def helpLines : List String :=
  [usageLine, "",
    "Map which UI components render which, for a directory of a React code base.", "",
    "options:"]
  ++ Flag.all.flatMap fun flag => ["  " ++ flag.spelling, "      " ++ flag.purpose]

end ComponentAtlas.CommandLine
