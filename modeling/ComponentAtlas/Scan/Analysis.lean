import ComponentAtlas.Component.Registration
import ComponentAtlas.Component.Usage
import ComponentAtlas.Disk.Text
import ComponentAtlas.Json.Display
import ComponentAtlas.Scan.Collection
import ComponentAtlas.Script.Dialect
import ComponentAtlas.Syntax.Fault

/-!
# Analysing source files

A source file is read, parsed and searched for component definitions; each definition is a
usage of the components that it renders. A file that cannot be read or parsed yields a
failure instead, and no usages.

The parser is a parameter. It gives a tree of every text, however broken, and marks in it what is
wrong; here is decided what is made of the marks.
-/

namespace ComponentAtlas.Scan

open Component (Definition Usage Findings)
open Syntax (Conventions Node)

/-- Why a source file is not analysed. -/
inductive Failure where
  | unreadable (path : String) (fault : Disk.ReadFault)
  | unparsable (path diagnostic : String)
  deriving Repr, DecidableEq

/-- The failure in words. -/
def Failure.message : Failure → String
  | unreadable path fault => s!"Failed to read {path}: {fault.message}"
  | unparsable path diagnostic => s!"Failed to parse {path}: {diagnostic}"

/-- What the analysis of a source file gives. -/
structure Analysis where
  source : SourceFile
  failure : Option Failure
  usages : List Usage
  deriving Repr

namespace Analysis

/-- The analysis as findings to be merged. -/
def findings (analysis : Analysis) : Findings :=
  ⟨analysis.source.relPath, analysis.failure.isNone, analysis.usages⟩

/-- An analysis that failed. -/
def failed (source : SourceFile) (failure : Failure) : Analysis := ⟨source, some failure, []⟩

end Analysis

/-- The usage that a definition is. -/
def usageOf (conventions : Conventions) (definition : Definition) : Usage :=
  ⟨definition.name, Component.childComponents conventions definition.body⟩

/-- The usages in a syntax tree. -/
def usagesIn (conventions : Conventions) (tree : Node) : List Usage :=
  (Component.definitions conventions tree).map (usageOf conventions)

/-- What is said of a definition. -/
def definitionEntry (conventions : Conventions) (source : SourceFile) (definition : Definition) :
    Log.Entry :=
  let children := (usageOf conventions definition).children
  let shown := if children.isEmpty then "nothing" else Json.quotedTexts children
  ⟨.debug, Log.Channel.analysis,
    s!"{source.relPath}: {definition.form.label} '{definition.name}' renders {shown}"⟩

/-- What parses scripts: the tree of a text in a dialect. -/
abbrev Parser := Script.Dialect → String → Node

section

variable (parser : Parser)

/-- The tree of a script in the file of the given name, or the diagnostic of a tree that is marked
as broken. -/
def parse (fileName text : String) : Except String Node :=
  let tree := parser (.ofFileName fileName) text
  if tree.hasError then .error tree.describeFirstFault else .ok tree

/-- The analysis of a source text, and what is said of it. -/
def analyzeText (conventions : Conventions) (source : SourceFile) (text : String) :
    Analysis × List Log.Entry :=
  match parse parser (String.ofList (Path.baseName source.path.toList)) text with
  | .error diagnostic => (.failed source (.unparsable source.path diagnostic), [])
  | .ok tree =>
    (⟨source, none, usagesIn conventions tree⟩,
      (Component.definitions conventions tree).map (definitionEntry conventions source))

/-- The analysis of a source file, and what is said of it. -/
def analyzeFile (disk : Disk) (conventions : Conventions) (source : SourceFile) :
    Analysis × List Log.Entry :=
  match disk.readMarkedText source.path with
  | .error fault => (.failed source (.unreadable source.path fault), [])
  | .ok text => analyzeText parser conventions source text

end

end ComponentAtlas.Scan
