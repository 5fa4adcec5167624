/-! Scanning the arguments of a command line for options, with the rules that options share. -/

namespace Viewpoint.Command

/-- An option: its long name, its short name if any, and which values it takes if any. -/
structure OptionSpec where
  long : String
  short : Option Char
  accepts : Option (String → Bool)

/-- What arguments may hold: options, one positional argument, and the names of subcommands. -/
structure Grammar where
  options : List OptionSpec
  positional : Option OptionSpec
  subcommands : List String

/-- What ends the reading of arguments early. -/
inductive Stop where
  | help
  | version
  | misuse
  deriving DecidableEq, Repr

/--
How far arguments have been read.

A value that was an argument of its own is held until the next option is read, and only then
checked.
-/
structure Scan where
  given : List (String × String)
  held : Option (OptionSpec × String)
  opened : Option OptionSpec
  verbatim : Bool

namespace Scan

/-- Nothing has been read. -/
def start : Scan :=
  ⟨[], none, none, false⟩

/-- Takes a value for an option that has none yet and accepts it. -/
def give (scan : Scan) (spec : OptionSpec) (value : String) : Except Stop Scan :=
  if (scan.given.lookup spec.long).isSome || !(spec.accepts.all fun accepts => accepts value) then
    .error .misuse
  else .ok { scan with given := (spec.long, value) :: scan.given }

/-- Checks the value that is held, if there is one. -/
def settle (scan : Scan) : Except Stop Scan :=
  match scan.opened, scan.held with
  | some _, _ => .error .misuse
  | none, some (spec, value) => { scan with held := none }.give spec value
  | none, none => .ok scan

/-- The value of an option. -/
def value? (scan : Scan) (long : String) : Option String :=
  scan.given.lookup long

end Scan

/-- The name of the option that asks for help. -/
def helpName : String := "help"

/-- The name of the option that asks for the version. -/
def versionName : String := "version"

/-- Reads an option with the value that is attached to it, if any. -/
def readOption (scan : Scan) (spec : Option OptionSpec) (attached : Option String) :
    Except Stop Scan := do
  match spec, attached with
  | none, _ => throw .misuse
  | some spec, attached =>
    match spec.accepts, attached with
    | none, some _ => throw .misuse
    | none, none =>
      let scan ← scan.settle
      if spec.long = helpName then throw .help
      else if spec.long = versionName then throw .version
      else scan.give spec ""
    | some _, some value => (← scan.settle).give spec value
    | some _, none => return { ← scan.settle with opened := some spec }

/-- Splits a text at the first equals sign. -/
def splitAtEquals (text : List Char) : String × Option String :=
  let name := String.ofList (text.takeWhile (· != '='))
  match text.dropWhile (· != '=') with
  | [] => (name, none)
  | _ :: value => (name, some (String.ofList value))

/-- The value that follows the letter of a short option in the same argument. -/
def attachedValue : List Char → Option String
  | [] => none
  | '=' :: value => some (String.ofList value)
  | value => some (String.ofList value)

/-- Where an argument leads: to further arguments, or into a subcommand. -/
inductive Reading where
  | scanning (scan : Scan)
  | entering (name : String)

/-- Reads an argument that is no option. -/
def readPlain (grammar : Grammar) (scan : Scan) (argument : String) : Except Stop Reading := do
  if let some spec := scan.opened then
    -- An option that waits for its value takes any argument but another option.
    if scan.verbatim then throw .misuse
    return .scanning { scan with opened := none, held := some (spec, argument) }
  if !scan.verbatim && grammar.subcommands.contains argument then
    return .entering argument
  match grammar.positional with
  | none => throw .misuse
  | some spec => return .scanning { ← scan.settle with held := some (spec, argument) }

/-- Reads an argument. -/
def readArgument (grammar : Grammar) (scan : Scan) (argument : String) : Except Stop Reading :=
  if scan.verbatim then readPlain grammar scan argument
  else match argument.toList with
    | ['-', '-'] => .ok (.scanning { scan with verbatim := true })
    | '-' :: '-' :: rest =>
      let (name, attached) := splitAtEquals rest
      (readOption scan (grammar.options.find? fun spec => spec.long == name) attached).map .scanning
    | '-' :: letter :: rest =>
      let spec := grammar.options.find? fun spec => spec.short == some letter
      -- A letter without a value acts at once, whatever letters follow.
      let attached := if spec.any fun spec => spec.accepts.isNone then none else attachedValue rest
      (readOption scan spec attached).map .scanning
    | _ => readPlain grammar scan argument

/-- Reads arguments up to the end, or up to a subcommand with its own arguments. -/
def readArguments (grammar : Grammar) (scan : Scan) :
    List String → Except Stop (Scan × Option (String × List String))
  | [] => .ok (scan, none)
  | argument :: rest =>
    match readArgument grammar scan argument with
    | .error stop => .error stop
    | .ok (.scanning scan) => readArguments grammar scan rest
    | .ok (.entering name) => .ok (scan, some (name, rest))

end Viewpoint.Command
