import Viewpoint.Command.Scan
import Viewpoint.Report.Basic
import Viewpoint.Time.Reader

/-! The command line: its options, its subcommands and their arguments. -/

namespace Viewpoint.Command

/-- What a command line asks for. -/
inductive Task where
  | replay (script : String) (fixtures : Option String) (now : Option Instant) (strict : Bool)
  | presets (now : Option Instant)
  | config
  deriving DecidableEq, Repr

/-- A task, with the file of the configuration and the form of the output. -/
structure Invocation where
  configPath : Option String
  format : Format
  task : Task
  deriving DecidableEq, Repr

/-- A path must not be empty. -/
def acceptsPath (value : String) : Bool :=
  !value.isEmpty

/-- A form of output has to be known. -/
def acceptsFormat (value : String) : Bool :=
  (Named.find? value : Option Format).isSome

/-- A time has to be readable. -/
def acceptsTime (value : String) : Bool :=
  (Instant.read? value.toList).isSome

/-- The option that asks for help. -/
def helpOption : OptionSpec :=
  ⟨helpName, some 'h', none⟩

/-- The option that gives the present time. -/
def nowOption : OptionSpec :=
  ⟨"now", none, some acceptsTime⟩

/-- The options before a subcommand, and the subcommands. -/
def mainGrammar : Grammar where
  options := [⟨"config", some 'c', some acceptsPath⟩, ⟨"format", some 'f', some acceptsFormat⟩,
    helpOption, ⟨versionName, some 'V', none⟩]
  positional := none
  subcommands := ["replay", "presets", "config", "help"]

/-- The arguments of a replay. -/
def replayGrammar : Grammar where
  options := [⟨"fixtures", none, some acceptsPath⟩, nowOption, ⟨"strict", none, none⟩, helpOption]
  positional := some ⟨"script", none, some acceptsPath⟩
  subcommands := []

/-- The arguments of a list of presets. -/
def presetsGrammar : Grammar where
  options := [nowOption, helpOption]
  positional := none
  subcommands := []

/-- A subcommand that takes no argument of its own. -/
def bareGrammar : Grammar where
  options := [helpOption]
  positional := none
  subcommands := []

/-- Reads all arguments of a subcommand. -/
def readAll (grammar : Grammar) (arguments : List String) : Except Stop Scan :=
  (readArguments grammar .start arguments).bind fun (scan, _) => scan.settle

/-- The time that was given. -/
def givenTime (scan : Scan) : Option Instant :=
  (scan.value? "now").bind fun value => Instant.read? value.toList

/-- Help is given for the program or for one subcommand. -/
def readHelp : List String → Stop
  | [] => .help
  | [name] => if mainGrammar.subcommands.contains name then .help else .misuse
  | _ => .misuse

/-- Reads a subcommand with its arguments. -/
def readTask (name : String) (arguments : List String) : Except Stop Task :=
  match name with
  | "replay" => do
    let scan ← readAll replayGrammar arguments
    match scan.value? "script" with
    | none => throw .misuse
    | some script =>
      return .replay script (scan.value? "fixtures") (givenTime scan) (scan.value? "strict").isSome
  | "presets" => do return .presets (givenTime (← readAll presetsGrammar arguments))
  | "config" => do
    let _ ← readAll bareGrammar arguments
    return .config
  | "help" => .error (readHelp arguments)
  | _ => .error .misuse

/-- The path of the configuration: the one that was given, or else the one from the environment. -/
def chooseConfig (scan : Scan) (fallback : Option String) : Except Stop (Option String) :=
  match scan.value? "config", fallback with
  | some path, _ => .ok (some path)
  | none, some path => if acceptsPath path then .ok (some path) else .error .misuse
  | none, none => .ok none

/-- Reads a command line; the environment may name a file of a configuration. -/
def Invocation.read (arguments : List String) (fallback : Option String) :
    Except Stop Invocation := do
  let (scan, entered) ← readArguments mainGrammar .start arguments
  match entered with
  | none =>
    let _ ← scan.settle
    throw .misuse
  | some (name, rest) =>
    let task ← readTask name rest
    let scan ← scan.settle
    let configPath ← chooseConfig scan fallback
    let format := ((scan.value? "format").bind Named.find?).getD .table
    return { configPath, format, task }

/-- The files that an invocation reads. -/
def Invocation.paths (invocation : Invocation) : List String :=
  invocation.configPath.toList ++
    match invocation.task with
    | .replay script fixtures _ _ => script :: fixtures.toList
    | _ => []

end Viewpoint.Command
