import Std.Time
import Viewpoint.Command.Run

/-! The program: it gives a command line its arguments, files and clock, and prints the outcome. -/

namespace Viewpoint.Command

/-- Why a file cannot be read, in words. -/
def readFailure : IO.Error → String
  | .noFileOrDirectory _ code _ => s!"No such file or directory (os error {code})"
  | .permissionDenied _ code _ => s!"Permission denied (os error {code})"
  | other => toString other

/-- Reads a file. -/
def readFileNow (path : String) : IO (Except String String) := do
  try
    return .ok (← IO.FS.readFile path)
  catch failure =>
    return .error (readFailure failure)

/-- The present time. -/
def presentTime : IO Instant := do
  let now ← Std.Time.Timestamp.now
  let nanos := now.toNanosecondsSinceUnixEpoch.toInt
  return (Instant.make? (nanos / nanosPerSecond) (nanos % nanosPerSecond).toNat).getD .epoch

/-- Performs an invocation with the files and the clock of the system. -/
def performNow (invocation : Invocation) : IO Outcome := do
  let clock ← presentTime
  let files ← invocation.paths.mapM fun path => return (path, ← readFileNow path)
  let readFile : ReadFile := fun path => (files.lookup path).getD (.error "not read")
  return taskOutcome DecodeError.message (perform readFile clock invocation)

end Viewpoint.Command

open Viewpoint.Command

/-- Runs the program. -/
def main (arguments : List String) : IO UInt32 := do
  let outcome ←
    match Invocation.read arguments (← IO.getEnv "PULSE_CONFIG") with
    | .error stop => pure stop.outcome
    | .ok invocation => performNow invocation
  IO.print outcome.out
  IO.eprint outcome.err
  return outcome.exit.toUInt32
