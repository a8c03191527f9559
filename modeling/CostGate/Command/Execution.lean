import CostGate.Command.Arguments
import CostGate.Command.Template
import CostGate.Gate.Run
import CostGate.Report.Rendering

/-!
# Execution

What a command prints, what it writes, and how it exits.
-/
namespace CostGate

/-- What a command sees of the world. -/
structure World where
  tree : Tree
  workingDirectory : Place
  env : Variables
  /-- The present time as reports show it. -/
  now : String
  /-- Whether output goes to a terminal, where it may have colours. -/
  terminal : Bool

/-- How a command ends. -/
inductive Ending where
  | finished (exitCode : Nat) (output errors : String)
  /-- Nothing more is done. The count of processed files belongs to errors of a run. -/
  | fatal (message : String) (filesProcessed : Option Nat) (output : String)
  deriving Repr, DecidableEq

namespace Place

def text (p : Place) : String := "/" ++ "/".intercalate p

end Place

namespace CheckOptions

def failureCode : Nat := 1

def runOptions (o : CheckOptions) : RunOptions where
  environment := o.environment.bind fun name => (Environment.parse name).toOption
  branch := o.branch
  failOnViolations := o.failOnViolations

/-- The report of a check is printed or written to a file. -/
def deliver (o : CheckOptions) (w : World) (text : String) (exitCode : Nat) : Ending × Tree :=
  match o.output with
  | none => (.finished exitCode text "", w.tree)
  | some path => match w.tree.store w.workingDirectory path text.toUTF8 with
    | .error cause =>
      (.fatal ("Failed to write report to " ++ path ++ ": " ++ cause.message) none "", w.tree)
    | .ok tree => (.finished exitCode "" ("✓ Report written to " ++ path ++ "\n"), tree)

def execute (o : CheckOptions) (w : World) (root : String) (configFile : Option String) :
    Ending × Tree :=
  let site : Site := ⟨w.workingDirectory, root⟩
  let fail (e : GateError Float) : Ending × Tree :=
    (.fatal e.message (some e.filesProcessed) "", w.tree)
  match OutputFormat.parse? o.format with
  | none => (.fatal (OutputFormat.unknownMessage o.format) none "", w.tree)
  | some format =>
    match Config.load w.tree w.workingDirectory root configFile with
    | .error cause => fail (.loading cause)
    | .ok config =>
      let input : RunInput Float :=
        { tree := w.tree
          site
          config
          env := w.env
          lookup := site.lookupBranch w.tree
          generatedAt := w.now }
      match run input o.runOptions with
      | .error e => fail e
      | .ok outcome =>
        let options : ConsoleOptions :=
          { top := o.top.getD config.top
            color := w.terminal && !o.noColor && o.output.isNone }
        o.deliver w (outcome.report.render format options)
          (if outcome.fails then failureCode else 0)

end CheckOptions

namespace Initialization

/-- The name of the file that is created. -/
def fileName : String := "archgate.toml"

def banner : String := "\n▶ Initializing archgate\n\n"

def nextSteps : String :=
  "\nNext steps:\n" ++
    "  1. Tune thresholds and branch rules in archgate.toml\n" ++
    "  2. Run archgate to check the project\n" ++
    "  3. In CI, run archgate check --format json -o governance.json" ++
    " and keep the JSON as an artifact\n"

/-- The tree of a project with a configuration file, and whether it has been created. A file that
exists is left alone. -/
def configure (t : Tree) (root : Place) : Tree × Bool :=
  let file := root ++ [fileName]
  if (t.get? file).isSome then (t, false) else (t.set file (.file Template.text.toUTF8), true)

def execute (w : World) (root : String) : Ending × Tree :=
  let missing (cause : AccessError) : Ending × Tree :=
    (.fatal ("Path does not exist: " ++ root ++ ": " ++ cause.message) none "", w.tree)
  match w.tree.locate w.workingDirectory root with
  | .error cause => missing cause
  | .ok place => match w.tree.get? place with
    | none => missing .missing
    | some .directory =>
      let (tree, created) := configure w.tree place
      let file := Place.text (place ++ [fileName])
      let note :=
        if created then "✓ Created " ++ file ++ "\n"
        else "✓ " ++ file ++ " already exists, leaving it untouched\n"
      (.finished 0 (banner ++ note ++ nextSteps) "", tree)
    | some _ => (.fatal ("Path is not a directory: " ++ Place.text place) none "", w.tree)

end Initialization

/-- The execution of a command: how it ends, and the tree it leaves. -/
def Invocation.execute (i : Invocation) (w : World) : Ending × Tree :=
  match i.command with
  | .check options => options.execute w i.projectRoot i.configFile
  | .init => Initialization.execute w i.projectRoot

end CostGate
