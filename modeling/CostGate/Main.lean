import CostGate.Command.Execution
import CostGate.Report.Timestamp

/-!
# The program

The command line program. It gathers what a command can see of the file system into a tree, hands
it to the command, and carries out what the command has decided.
-/
namespace CostGate.Program

/-- The place that the text of an absolute path names. -/
def placeOf (text : String) : Place :=
  (Text.pieces (· == '/') text.toList).foldl Tree.step []

/-- The place that a text names from a working directory on, whether or not it exists. -/
def target (workingDirectory : Place) (text : String) : Place :=
  let start := if text.toList.head? = some '/' then [] else workingDirectory
  (Text.pieces (· == '/') text.toList).foldl Tree.step start

/-- The entry of the file system at a place, as seen from any directory. -/
def spot (here : IO.FS.DirEntry) (place : Place) : IO.FS.DirEntry :=
  { here with fileName := Place.text place }

/-- Files whose content some command reads. -/
def isRead (place : Place) : Bool :=
  let names := Config.fileNames ++ [".archgateignore", ".ignore", ".gitignore", ".git"]
  Discovery.isSource (Path.ofNames place) || place.getLast?.any names.contains

/-- What stands somewhere. Links and special files do not count. -/
def entryAt (e : IO.FS.DirEntry) (withContent : Bool) : IO (Option Entry) := do
  try
    let info ← e.path.symlinkMetadata
    match info.type with
    | .dir => return some .directory
    | .file =>
      if withContent then
        try
          return some (.file (← IO.FS.readBinFile e.path))
        catch _ => return some .locked
      else return some (.file ByteArray.empty)
    | _ => return none
  catch _ => return none

/-- The entries at some places, where there are any. -/
def entriesAt (here : IO.FS.DirEntry) (places : List Place) : IO (List (Place × Entry)) := do
  let found ← places.mapM fun place => do
    match ← entryAt (spot here place) true with
    | some e => return [(place, e)]
    | none => return []
  return found.flatten

/-- What is read of a repository in a directory. -/
def repositoryPlaces (place : Place) : List Place :=
  [[".git"], [".git", "HEAD"], [".git", "objects"], [".git", "refs"], [".git", "info"],
  [".git", "info", "exclude"], ["HEAD"], ["objects"], ["refs"]].map (place ++ ·)

partial def entriesBelow (e : IO.FS.DirEntry) (place : Place) : IO (List (Place × Entry)) := do
  let children ← try e.path.readDir catch _ => pure #[]
  let found ← children.toList.mapM fun child => do
    let place := place ++ [child.fileName]
    if child.fileName = ".git" then return []
    else match ← entryAt child (isRead place) with
      | none => return []
      | some .directory =>
        let repository ← entriesAt e (repositoryPlaces place)
        return (place, .directory) :: repository ++ (← entriesBelow child place)
      | some entry => return [(place, entry)]
  return found.flatten

/-- What stands on the way to a place, and at it. -/
def entriesAlong (here : IO.FS.DirEntry) (place : Place) : IO (List (Place × Entry)) :=
  entriesAt here (Tree.leadingTo place ++ [place])

/-- The ignore files and the repository of a directory. -/
def surroundings (place : Place) : List Place :=
  Ignore.kinds.map (place ++ ·) ++ repositoryPlaces place

/-- The tree that an invocation works on. -/
def load (here : IO.FS.DirEntry) (workingDirectory : Place) (i : Invocation) : IO Tree := do
  let root := target workingDirectory i.projectRoot
  let files := match i.command with
    | .check o => [i.configFile, o.output].filterMap id
    | .init => []
  let ways ← (workingDirectory :: root :: files.map (target workingDirectory)).mapM
    (entriesAlong here)
  let around ← entriesAt here ((root :: Ignore.above root).flatMap surroundings)
  let inside ← entriesBelow (spot here root) root
  let all := ways.flatten ++ around ++ inside
  return ⟨all.foldl (fun kept e => if kept.any (·.1 == e.1) then kept else e :: kept) []⟩

/-- The files of one tree that another does not have are written. -/
def save (before after : Tree) : IO Unit :=
  after.entries.forM fun (place, e) => do
    match e with
    | .file content =>
      if (before.content? place).map (·.data) != some content.data then
        IO.FS.writeBinFile (Place.text place) content
    | _ => return ()

/-- The present time, which a new file bears. -/
def now : IO Timestamp := do
  let (_, path) ← IO.FS.createTempFile
  let info ← path.metadata
  IO.FS.removeFile path
  return ⟨info.modified.sec⟩

def presentVariables : IO Variables := do
  let names := [Context.environmentVariable, "CI", Arguments.configVariable] ++
    Context.integrationVariables ++ Context.branchVariables
  let values ← names.mapM fun name => do
    return (name, ← IO.getEnv name)
  return fun name => (values.lookup name).join

def usage : String :=
  "Usage: archgate [--project-root DIR] [--config FILE] [--workers N] [--log-level LEVEL]\n" ++
    "                [check [--environment NAME] [--branch NAME] [--fail-on-violations | " ++
    "--no-fail]\n" ++
    "                       [-f FORMAT] [-o FILE] [--top N] [--no-color] | init]\n"

/-- Prints how a command ended and returns its exit code. -/
def conclude : Ending → IO UInt32
  | .finished exitCode output errors => do
    IO.print output
    IO.eprint errors
    return exitCode.toUInt32
  | .fatal message processed output => do
    IO.print output
    IO.eprintln ("error: " ++ message)
    match processed with
    | some n => IO.eprintln (String.ofList (Number.numeral n) ++ " files processed before failure")
    | none => return GateError.exitCode.toUInt32
    return GateError.exitCode.toUInt32

end CostGate.Program

open CostGate CostGate.Program in
def main (args : List String) : IO UInt32 := do
  let env ← presentVariables
  match Invocation.ofArguments env args with
  | .error stop =>
    match stop with
    | .shown => IO.print usage
    | .refused => IO.eprint usage
    return stop.exitCode.toUInt32
  | .ok invocation =>
    let directory ← IO.currentDir
    let workingDirectory := placeOf directory.toString
    let here : IO.FS.DirEntry := ⟨directory, ""⟩
    let tree ← load here workingDirectory invocation
    let world : World :=
      { tree
        workingDirectory
        env
        now := (← now).text
        terminal := ← (← IO.getStdout).isTty }
    let (ending, after) := invocation.execute world
    save tree after
    conclude ending
