import ComponentAtlas.CommandLine.Run
import ComponentAtlas.Crash
import ComponentAtlas.Disk.Change
import ComponentAtlas.Path.Accounts
import ComponentAtlas.Script.Program

/-!
# The program

The program takes a picture of the part of the disk that its arguments concern, runs on the
picture, and carries over what the run has changed. Everything that is decided is decided by the
run; here is only what touches the machine.

The picture holds the files that the arguments name, with the directories above them, and what
lies below the directory that is scanned. Files there are read only if the scan may read them.
-/

namespace ComponentAtlas.Program

/-- A name that no entry has, so that a link to it leads nowhere. -/
def nowhere : String := "/\x00"

/-- The names that lead to a path from the root. -/
def namesOf (cwd path : String) : List String :=
  (Path.names (Path.absolute cwd.toList path.toList)).map String.ofList

/-- The path that names lead to from the root. -/
def pathOf (names : List String) : String := "/" ++ "/".intercalate names

/-- A file as an entry. -/
def fileAt (path : String) : IO Disk.Entry := do
  return .file (← IO.FS.readBinFile path).toList

/-- Takes a picture of an entry and all that is below it. A link counts as the file that it leads
to; one that leads to a directory or nowhere is kept as such a link. -/
partial def picture (choice : Scan.Choice) (name path : String) : IO Disk.Entry := do
  let place := (← IO.currentDir) / path
  match (← place.symlinkMetadata).type with
  | .dir => directory place.toString
  | .symlink =>
    if ← place.isDir then return .link "/"
    else if (← place.pathExists) && choice.accepts name then fileAt path
    else return .link nowhere
  | _ => if choice.accepts name then fileAt path else return .file []
where
  directory (path : String) : IO Disk.Entry := do
    let place := (← IO.currentDir) / path
    match ← place.readDir.toBaseIO with
    | .error _ => return .directory false []
    | .ok found =>
      let kept := found.toList.filter fun item => !choice.excludes item.fileName
      return .directory true (← kept.mapM fun item => do
        return (item.fileName, ← picture choice item.fileName (path ++ "/" ++ item.fileName)))

/-- Takes a file that is named into a picture, with the directories above it. -/
def withFile (disk : Disk) (path : String) : IO Disk := do
  let names := namesOf disk.cwd path
  let mut root := disk.root
  for size in List.range (names.length + 1) do
    let above := names.take size
    let place := (← IO.currentDir) / pathOf above
    if ← place.isDir then
      if (root.find? above).isNone then root := Disk.Entry.put .emptyDirectory above root
    else if ← place.pathExists then
      root := Disk.Entry.put (← fileAt (pathOf above)) above root
  return { disk with root }

/-- The files that arguments name. -/
def filesOf (arguments : CommandLine.Arguments) : List String :=
  let older := (List.range 4).map (Log.olderPath (arguments.logFile.getD "") <| · + 1)
  ["."] ++ [arguments.configFile, arguments.saveConfigFile, arguments.outputFile,
    arguments.treeFile, arguments.logFile].filterMap CommandLine.wanted
  ++ (if (CommandLine.wanted arguments.logFile).isSome then older else [])

/-- A picture of the files that arguments name. -/
def withFiles (disk : Disk) (arguments : CommandLine.Arguments) : IO Disk :=
  (filesOf arguments).foldlM withFile disk

/-- The environment in which a configuration is resolved. -/
def environment (cwd : String) (config : Config) : IO Path.Environment := do
  let user := (← IO.getEnv "USER").getD ""
  let listing ← try IO.FS.readFile "/etc/passwd" catch _ => pure ""
  let paths := [config.inputPath, config.basePath, cwd]
  let names := "HOME" :: paths.flatMap (Path.variableNames ·.toList)
  let values ← names.filterMapM fun name => return (← IO.getEnv name).map (name, ·)
  return { cwd, values, homes := Path.accounts user listing }

/-- A picture with what lies below a directory, unless it is no directory. -/
def withDirectory (disk : Disk) (config : Config) (path : String) : IO Disk := do
  let place := (← IO.currentDir) / path
  match Scan.choice config with
  | .error _ => return disk
  | .ok choice =>
    if ← place.isDir then
      let entry ← picture.directory choice (← IO.FS.realPath path).toString
      return { disk with root := Disk.Entry.put entry (namesOf disk.cwd path) disk.root }
    else withFile disk path

/-- The present time, as the disk tells it. -/
def now : IO Time.Instant := do
  let (_, path) ← IO.FS.createTempFile
  let modified := (← path.metadata).modified
  IO.FS.removeFile path
  return ⟨modified.sec.toNat * 1000 + modified.nsec.toNat / 1000000⟩

/-- The disk and the environment on which arguments are to be carried out. -/
def setting (cwd : String) (time : Time.Instant) (arguments : CommandLine.Arguments) :
    IO (Disk × Path.Environment) := do
  let named ← withFiles ⟨.emptyDirectory, cwd⟩ arguments
  match (CommandLine.configuration arguments).run.run (Session.start named time) with
  | (.error _, _) => return (named, ⟨cwd, [], []⟩)
  | (.ok config, _) =>
    let env ← environment cwd config
    if arguments.dumpConfig then return (named, env)
    let scanned ← withDirectory named config (Scan.rootDirectory env config)
    return (← withFiles scanned arguments, env)

/-- Carries a change over to the disk. -/
def apply : Disk.Change → IO Unit
  | .made names => IO.FS.createDirAll (pathOf names)
  | .written names bytes => IO.FS.writeBinFile (pathOf names) ⟨bytes.toArray⟩
  | .gone names => IO.FS.removeFile (pathOf names)

/-- Does what a command line asks for, and gives the number that stands for how it ends. -/
def run (texts : List String) : IO Nat := do
  let cwd := (← IO.currentDir).toString
  let time ← now
  let (disk, env) ←
    match CommandLine.read texts with
    | .arguments arguments => setting cwd time arguments
    | _ => pure (⟨.emptyDirectory, cwd⟩, ⟨cwd, [], []⟩)
  let (ending, session) :=
    (CommandLine.run (Scan.run Script.tree) env texts).run (Session.start disk time)
  (Disk.changes disk session.disk).forM apply
  IO.print session.output
  IO.eprint session.journal
  IO.eprint session.errors
  if let .crashed crash := ending then crash.notice.forM IO.eprintln
  return ending.number

end ComponentAtlas.Program

/-- Runs the program. A failure of the machine that the run could not see is reported as a
crash. -/
def main (texts : List String) : IO UInt32 := do
  try
    return (← ComponentAtlas.Program.run texts).toUInt32
  catch failure =>
    let details : List ComponentAtlas.Json := [.str (toString failure)]
    let crash := ComponentAtlas.Crash.raised ComponentAtlas.Crash.systemKind details
    crash.notice.forM IO.eprintln
    return 1
