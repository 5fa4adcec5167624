import Viewpoint.Command.Arguments
import Viewpoint.Report.Config
import Viewpoint.Report.Replay
import Viewpoint.Wire.Response

/-! Running a command line: what it prints, and how it ends. -/

namespace Viewpoint.Command

/-- The kinds of input files. -/
inductive InputKind where
  | script
  | fixture
  deriving DecidableEq, Repr

/-- The name of a kind of input files. -/
def InputKind.name : InputKind → String
  | script => "script"
  | fixture => "fixture"

/-- Why an input file cannot be used. -/
inductive InputError where
  | unreadable (reason : String)
  | undecodable (error : DecodeError)
  deriving DecidableEq, Repr

/-- Why a replay does not succeed. -/
inductive ReplayError where
  | input (kind : InputKind) (path : String) (error : InputError)
  | failed (failure : ReplayFailure)
  deriving DecidableEq, Repr

/-- Why a task does not succeed. -/
inductive TaskError where
  | config (path : String) (error : Config.LoadError)
  | replay (script : String) (error : ReplayError)
  | presets (cause : Rejection)
  deriving DecidableEq, Repr

/-- The wording of an error of an input file. -/
def InputError.message (describe : DecodeError → String) : InputError → String
  | unreadable reason => reason
  | undecodable error => describe error

/-- The wording of an error of a replay. -/
def ReplayError.message (describe : DecodeError → String) : ReplayError → String
  | input kind path error => s!"invalid {kind.name} file {path}: {error.message describe}"
  | failed failure => failure.chain

/-- The wording of an error, given the wording of errors of decoding. -/
def TaskError.message (describe : DecodeError → String) : TaskError → String
  | config path error => s!"loading configuration from {path}: {error.message describe}"
  | replay script error => s!"replaying {script}: {error.message describe}"
  | presets cause => cause.message

/-- A way to read files: the content of a file, or the reason why it cannot be read. -/
abbrev ReadFile := String → Except String String

/-- Loads the configuration of an invocation. -/
def loadConfig (readFile : ReadFile) : Option String → Except TaskError Config
  | none => .ok .standard
  | some path =>
    match readFile path with
    | .error reason => .error (.config path (.unreadable path reason))
    | .ok content => (Config.load content).mapError (.config path)

/-- Reads and decodes an input file. -/
def loadInput {α : Type} (readFile : ReadFile) (kind : InputKind) (decode : Json → Decoded α)
    (path : String) : Except ReplayError α :=
  match readFile path with
  | .error reason => .error (.input kind path (.unreadable reason))
  | .ok content =>
    (Decode.ofText decode content).mapError fun error => .input kind path (.undecodable error)

/-- Replays the script of a file. -/
def replayFile (readFile : ReadFile) (config : Config) (script : String)
    (fixtures : Option String) (now : Instant) (strict : Bool) :
    Except ReplayError ReplayReport := do
  let script ← loadInput readFile .script Script.ofJson script
  let fixtures ← fixtures.mapM (loadInput readFile .fixture Fixtures.ofJson)
  (Replay.run config script fixtures now strict).mapError .failed

/-- Performs a task and gives what it prints; the clock counts where no time is given. -/
def perform (readFile : ReadFile) (clock : Instant) (invocation : Invocation) :
    Except TaskError String := do
  let config ← loadConfig readFile invocation.configPath
  match invocation.task with
  | .replay script fixtures now strict =>
    let report ← (replayFile readFile config script fixtures (now.getD clock) strict).mapError
      (.replay script)
    return Report.print invocation.format report
  | .presets now =>
    let report ← (PresetReport.list config (now.getD clock)).mapError .presets
    return Report.print invocation.format report
  | .config => return Report.print invocation.format config

/-- How a program ends: its exit code, and what it has printed. -/
structure Outcome where
  exit : Nat
  out : String
  err : String
  deriving DecidableEq, Repr

/-- The text that tells the version. -/
def versionText : String := "pulse 0.1.0\n"

/-- The text that tells how to use the program. -/
def usageText : String :=
  Report.unlines ["Usage: pulse [OPTIONS] <COMMAND>", "", "Commands:",
    "  replay   Replay a script of events",
    "  presets  List the presets of the configuration",
    "  config   Print the configuration",
    "", "Options:",
    "  -c, --config <CONFIG>  File of the configuration",
    "  -f, --format <FORMAT>  Form of the output: table or json",
    "  -h, --help             Print help",
    "  -V, --version          Print version"]

/-- The outcome of arguments that stop the program early. -/
def Stop.outcome : Stop → Outcome
  | help => ⟨0, usageText, ""⟩
  | version => ⟨0, versionText, ""⟩
  | misuse => ⟨2, "", usageText⟩

/-- The outcome of a task. -/
def taskOutcome (describe : DecodeError → String) : Except TaskError String → Outcome
  | .ok output => ⟨0, output, ""⟩
  | .error error => ⟨1, "", s!"Error: {error.message describe}\n"⟩

end Viewpoint.Command
