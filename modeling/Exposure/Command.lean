import Exposure.Expansion
import Exposure.Fragment
import Exposure.Report.Record
import Exposure.Report.Summary

namespace Exposure

/-- What is asked about a source text: its descriptors, or its items with the code that registers them. -/
inductive Command where
  | info (asJson : Bool)
  | expand (runtime : String)
  deriving DecidableEq, Repr

/-- What a command answers: its exit code, what it prints, what it reports, and what it writes to its output file. -/
structure Reply where
  exitCode : Nat
  output : String
  errors : String
  written : Option String
  deriving DecidableEq, Repr

/-- Why a command breaks off without a reply: a fault that is no diagnostic, or markup that cannot be shown. -/
inductive Interruption where
  | fault (fault : Fault)
  | markup (failure : Report.Markup.Failure)
  deriving DecidableEq, Repr

namespace Command

/-- End every line with a line feed alone. -/
def unifyLineEnds : List Char → List Char
  | '\r' :: '\n' :: rest => '\n' :: unifyLineEnds rest
  | '\r' :: rest => '\n' :: unifyLineEnds rest
  | char :: rest => char :: unifyLineEnds rest
  | [] => []

/-- The reply to a source text with a fault that can be reported. -/
def refuse (file : String) (diagnostic : Diagnostic) : Reply :=
  ⟨1, "", file ++ ":" ++ diagnostic.location ++ ": error: " ++ diagnostic.message ++ "\n", none⟩

/-- The descriptors as data. -/
def dataText (descriptors : List Descriptor) : String :=
  Report.Json.render 0 (.list (descriptors.map Report.Json.ofDescriptor)) ++ "\n"

/-- The summaries of the descriptors. -/
def summaryText (descriptors : List Descriptor) : Except Report.Markup.Failure String := do
  return String.join (← descriptors.mapM fun descriptor => (Report.Summary.ofDescriptor descriptor).text)

/-- Answer a command about expansions. -/
def answer (expansions : List Expansion) : Command → Except Interruption Reply
  | .info true => .ok ⟨0, dataText (expansions.map (·.descriptor)), "", none⟩
  | .info false =>
    match summaryText (expansions.map (·.descriptor)) with
    | .ok text => .ok ⟨0, text, "", none⟩
    | .error failure => .error (.markup failure)
  | .expand runtime =>
    .ok ⟨0, "", "",
      some ("\n".intercalate (expansions.map fun expansion =>
        Fragment.appendTo expansion.source runtime expansion.descriptor))⟩

/-- Answer a command about the text of a file. -/
def run (command : Command) (file text : String) : Except Interruption Reply :=
  match Expansion.ofText (String.ofList (unifyLineEnds text.toList)) with
  | .ok expansions => answer expansions command
  | .error (.diagnostic diagnostic) => .ok (refuse file diagnostic)
  | .error other => .error (.fault other)

end Command

end Exposure
