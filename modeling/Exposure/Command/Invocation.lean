import Exposure.Command

namespace Exposure

/-- A command with the file that it reads and the file that it writes. -/
structure Invocation where
  command : Command
  input : String
  output : Option String
  deriving DecidableEq, Repr

namespace Invocation

/-- What the command line has set so far. -/
structure Settings where
  input : Option String
  output : Option String
  runtime : String
  asJson : Bool
  deriving DecidableEq, Repr

namespace Settings

/-- Nothing has been set. -/
def start : Settings := ⟨none, none, Fragment.defaultRuntime, false⟩

/-- Read the arguments behind the name of a command. -/
def read (settings : Settings) : List String → Option Settings
  | [] => some settings
  | [last] => if last = "--json" then some { settings with asJson := true } else none
  | name :: value :: rest =>
    if name = "--json" then read { settings with asJson := true } (value :: rest)
    else if name = "--input" || name = "-i" then read { settings with input := some value } rest
    else if name = "--output" || name = "-o" then read { settings with output := some value } rest
    else if name = "--runtime-path" then read { settings with runtime := value } rest
    else none

end Settings

/-- The arguments behind the switches that only concern the log. -/
def withoutLogging (arguments : List String) : List String :=
  arguments.dropWhile fun argument => argument = "--verbose" || argument = "-v"

/-- Read a command line. -/
def ofArguments? (arguments : List String) : Option Invocation := do
  match withoutLogging arguments with
  | [] => none
  | name :: rest =>
    let settings ← Settings.start.read rest
    let input ← settings.input
    if name = "info" then return ⟨.info settings.asJson, input, none⟩
    else if name = "expand" then return ⟨.expand settings.runtime, input, some (← settings.output)⟩
    else none

/-- How the command line is written. -/
def usage : String :=
  "usage: [--verbose] info --input FILE [--json]\n" ++
    "       [--verbose] expand --input FILE --output FILE [--runtime-path PATH]\n"

end Invocation

namespace Interruption

/-- The message about a command that breaks off. -/
def message : Interruption → String
  | fault (.diagnostic diagnostic) => diagnostic.text
  | fault (.codePoint value) => "no character has the code point " ++ toString value
  | fault .numeral => "a value has too many digits"
  | markup failure => failure.message

end Interruption

end Exposure
