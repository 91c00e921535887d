import Exposure.Command.Invocation

namespace Exposure.Invocation

/-- Answer an invocation: print and report, and write the output file if there is one. -/
def perform (invocation : Invocation) : IO UInt32 := do
  let text ← IO.FS.readFile invocation.input
  match invocation.command.run invocation.input text with
  | .ok reply =>
    IO.print reply.output
    IO.eprint reply.errors
    match invocation.output, reply.written with
    | some file, some written => IO.FS.writeFile file written
    | _, _ => pure ()
    return reply.exitCode.toUInt32
  | .error interruption =>
    IO.eprintln interruption.message
    return 1

end Exposure.Invocation

/-- Describe or expand the exposed items of a source file. -/
def main (arguments : List String) : IO UInt32 := do
  match Exposure.Invocation.ofArguments? arguments with
  | some invocation => invocation.perform
  | none =>
    IO.eprint Exposure.Invocation.usage
    return 2
