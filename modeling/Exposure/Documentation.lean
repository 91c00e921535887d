import Exposure.Syntax.Attribute
import Exposure.Text.Literal

namespace Exposure.Documentation

/-- Drop one leading blank from a line. -/
def dropBlank (line : String) : String :=
  match line.toList with
  | ' ' :: rest => String.ofList rest
  | _ => line

/-- The lines that one attribute adds to the documentation. -/
def linesOf (attr : Attribute) : Outcome (List String) :=
  match attr.value? with
  | some (.leaf leaf) =>
    if attr.name ≠ "doc" then .ok []
    else if leaf.kind = .doc then .ok [leaf.text]
    else if leaf.kind = .string then do
      return (Text.splitAt '\n' (← Literal.decode leaf.text)).map dropBlank
    else .ok []
  | _ => .ok []

/-- The documentation that attributes amount to. -/
def ofAttributes (attributes : List Attribute) : Outcome String := do
  return "\n".intercalate (← attributes.mapM linesOf).flatten

end Exposure.Documentation
