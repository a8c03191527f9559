import CostGate.Gate.Context
import CostGate.Number.Reading
import CostGate.Report.Format

/-!
# Arguments

The command line. Arguments are read from left to right. Settings of the program may stand in
front of the command or behind it, where they count more; a setting may be given once in either
place. Asking for help or for the version ends the reading at once, and so does a bad argument.
-/
namespace CostGate

namespace Arguments

inductive Stop where
  /-- Help or the version is shown. -/
  | shown
  | refused
  deriving Repr, DecidableEq

def Stop.exitCode : Stop → Nat
  | shown => 0
  | refused => 2

inductive Subcommand where
  | check
  | init
  deriving Repr, DecidableEq

inductive Setting where
  | projectRoot
  | logLevel
  | workers
  | configFile
  | environment
  | branch
  | failOnViolations
  | noFail
  | format
  | output
  | top
  | noColor
  | help
  | version
  deriving Repr, DecidableEq

/-- A count in decimal of at most sixty-four bits; a plus sign may stand in front. -/
def count? (s : String) : Option Nat :=
  let ds := match s.toList with
    | '+' :: rest => rest
    | ds => ds
  let n := Number.ofDigits ds
  if !ds.isEmpty ∧ ds.all Text.isAsciiDigit ∧ n < UInt64.size then some n else none

namespace Setting

def long : Setting → String
  | projectRoot => "project-root"
  | logLevel => "log-level"
  | workers => "workers"
  | configFile => "config"
  | environment => "environment"
  | branch => "branch"
  | failOnViolations => "fail-on-violations"
  | noFail => "no-fail"
  | format => "format"
  | output => "output"
  | top => "top"
  | noColor => "no-color"
  | help => "help"
  | version => "version"

def short? : Setting → Option Char
  | format => some 'f'
  | output => some 'o'
  | help => some 'h'
  | version => some 'V'
  | _ => none

def takesValue : Setting → Bool
  | failOnViolations => false
  | noFail => false
  | noColor => false
  | help => false
  | version => false
  | _ => true

def accepts (setting : Setting) (value : String) : Bool :=
  match setting with
  | projectRoot => !value.isEmpty
  | configFile => !value.isEmpty
  | output => !value.isEmpty
  | logLevel => ["error", "warn", "info", "debug", "trace"].contains value
  | workers => (count? value).any fun n => 1 ≤ n && n ≤ 64
  | environment => ["development", "dev", "ci", "test", "production", "prod"].contains value
  | format => ["console", "text", "json", "markdown", "md"].contains value
  | top => (count? value).isSome
  | _ => true

def shared : List Setting := [projectRoot, logLevel, workers, configFile, help]

/-- The settings that are known in front of a command or behind it. -/
def known : Option Subcommand → List Setting
  | none => version :: shared
  | some .init => shared
  | some .check =>
    [environment, branch, failOnViolations, noFail, format, output, top, noColor] ++ shared

end Setting

/-- The settings of one place, and one whose value has not been looked at yet. -/
structure Settings where
  given : List (Setting × String)
  pending : Option (Setting × Option String)

namespace Settings

def empty : Settings := ⟨[], none⟩

def get? (s : Settings) (setting : Setting) : Option String := s.given.lookup setting

def has (s : Settings) (setting : Setting) : Bool := (s.get? setting).isSome

/-- Whether the next argument may be the value of a setting. -/
def awaitsValue (s : Settings) : Bool :=
  match s.pending with
  | some (_, none) => true
  | _ => false

def accept (s : Settings) (setting : Setting) (value : String) : Except Stop Settings :=
  if s.has setting ∨ !setting.accepts value then .error .refused
  else .ok { s with given := s.given ++ [(setting, value)] }

def settle (s : Settings) : Except Stop Settings :=
  match s.pending with
  | none => .ok s
  | some (_, none) => .error .refused
  | some (setting, some value) => { s with pending := none }.accept setting value

def flag (s : Settings) (setting : Setting) : Except Stop Settings := do
  let s ← s.settle
  if setting = .help ∨ setting = .version then .error .shown else s.accept setting ""

/-- A setting with its value in the same argument. -/
def attached (s : Settings) (setting : Setting) (value : String) : Except Stop Settings := do
  let s ← s.settle
  s.accept setting value

/-- A setting whose value is the next argument. -/
def await (s : Settings) (setting : Setting) : Except Stop Settings := do
  let s ← s.settle
  .ok { s with pending := some (setting, none) }

def long (s : Settings) (place : Option Subcommand) (arg : List Char) : Except Stop Settings :=
  let (name, value) := match Text.splitOnce? ['='] arg with
    | some (name, value) => (name, some (String.ofList value))
    | none => (arg, none)
  match (Setting.known place).find? fun k => k.long.toList = name with
  | none => .error .refused
  | some setting =>
    match setting.takesValue, value with
    | true, some value => s.attached setting value
    | true, none => s.await setting
    | false, some _ => .error .refused
    | false, none => s.flag setting

/-- An argument behind one hyphen: flags, and at most one setting with a value at the end. -/
def cluster (s : Settings) (place : Option Subcommand) : List Char → Except Stop Settings
  | [] => .ok s
  | c :: rest => match (Setting.known place).find? fun k => k.short? = some c with
    | none => .error .refused
    | some setting =>
      if setting.takesValue then
        match rest with
        | [] => s.await setting
        | '=' :: value => s.attached setting (String.ofList value)
        | value => s.attached setting (String.ofList value)
      else do
        let s ← s.flag setting
        s.cluster place rest

end Settings

def subcommand? (arg : String) : Option Subcommand :=
  if arg = "check" then some .check else if arg = "init" then some .init else none

/-- The word that asks for help in place of a command. -/
def helpWord : String := "help"

/-- What follows from asking for help on commands. -/
def helpOn (args : List String) : Stop :=
  match args with
  | [] => .shown
  | [arg] => if (subcommand? arg).isSome ∨ arg = helpWord then .shown else .refused
  | _ => .refused

/-- The settings of one place, and the command that follows with its arguments. -/
def read (place : Option Subcommand) (s : Settings) :
    List String → Except Stop (Settings × Option (Subcommand × List String))
  | [] => .ok (s, none)
  | arg :: rest =>
    let mayCommand := place.isNone && !s.awaitsValue
    match mayCommand, subcommand? arg with
    | true, some command => .ok (s, some (command, rest))
    | _, _ =>
      if mayCommand ∧ arg = helpWord then .error (helpOn rest)
      else match arg.toList with
        | ['-', '-'] => if rest.isEmpty then .ok (s, none) else .error .refused
        | '-' :: '-' :: name => do
          let s ← s.long place name
          read place s rest
        | '-' :: c :: more => do
          let s ← s.cluster place (c :: more)
          read place s rest
        | _ => match s.pending with
          | some (setting, none) =>
            read place { s with pending := some (setting, some arg) } rest
          | _ => .error .refused

/-- The variable that names the configuration file. -/
def configVariable : String := "ARCHGATE_CONFIG"

/-- The settings of one place once all arguments are read. The variable counts where no
configuration file is given, so it has to be acceptable there. Failing on violations and never
failing exclude each other. -/
def finish (env : Variables) (s : Settings) : Except Stop Settings := do
  let s ← s.settle
  let badVariable := !s.has .configFile && (env configVariable).any (!Setting.configFile.accepts ·)
  if badVariable ∨ (s.has .failOnViolations ∧ s.has .noFail) then .error .refused else .ok s

end Arguments

structure CheckOptions where
  environment : Option String
  branch : Option String
  failOnViolations : Option Bool
  format : String
  output : Option String
  top : Option Nat
  noColor : Bool
  deriving Repr, DecidableEq

inductive Command where
  | check (options : CheckOptions)
  | init
  deriving Repr, DecidableEq

/-- A command with the settings of the program. -/
structure Invocation where
  projectRoot : String
  configFile : Option String
  command : Command
  deriving Repr, DecidableEq

namespace Invocation

open Arguments (Settings Stop Subcommand)

def checkOptions (s : Settings) : CheckOptions where
  environment := s.get? .environment
  branch := s.get? .branch
  failOnViolations :=
    if s.has .failOnViolations then some true
    else if s.has .noFail then some false
    else none
  format := (s.get? .format).getD OutputFormat.console.name
  output := s.get? .output
  top := (s.get? .top).bind Arguments.count?
  noColor := s.has .noColor

/-- The command of a name; a check without one. -/
def commandOf (subcommand : Option Subcommand) (s : Settings) : Command :=
  match subcommand with
  | some .init => .init
  | _ => .check (checkOptions s)

/-- The invocation that arguments and variables make. -/
def ofArguments (env : Variables) (args : List String) : Except Stop Invocation := do
  let (outer, rest) ← Arguments.read none .empty args
  let inner ← match rest with
    | none => .ok Settings.empty
    | some (subcommand, args) => do
      let (inner, _) ← Arguments.read (some subcommand) .empty args
      Arguments.finish env inner
  let outer ← Arguments.finish env outer
  let get? (setting : Arguments.Setting) : Option String :=
    (inner.get? setting).or (outer.get? setting)
  .ok
    { projectRoot := (get? .projectRoot).getD "."
      configFile := (get? .configFile).or (env Arguments.configVariable)
      command := commandOf (rest.map (·.1)) inner }

end Invocation

end CostGate
