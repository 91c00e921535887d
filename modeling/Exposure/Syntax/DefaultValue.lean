import Exposure.Syntax.TokenTree
import Exposure.Text.Numeral

namespace Exposure.DefaultValue

/-- A text occurs inside another. -/
def occurs (part : List Char) : List Char → Bool
  | [] => part.isEmpty
  | first :: rest => part.isPrefixOf (first :: rest) || occurs part rest

/-- A literal whose text reads the same on both sides. -/
def isPlainLiteral (literal : List Char) : Bool :=
  !(occurs ['\\', 'u', '{'] literal || ['r', '#'].isPrefixOf literal || ['b', 'r', '#'].isPrefixOf literal)

/-- The number that a literal stands for on the callers' side. -/
def renderNumber (text : String) : Option String := (Numeral.bare? text.toList).map String.ofList

/-- The word that a reserved value has on the callers' side. -/
def renderWord (text : String) : Option String :=
  if text = "true" then some "True"
  else if text = "false" then some "False"
  else if text = "None" then some "None"
  else none

/-- The text of a token on the callers' side. -/
def renderLeaf (leaf : Leaf) : Option String :=
  match leaf.kind with
  | .number => renderNumber leaf.text
  | .ident => renderWord leaf.text
  | .string => if isPlainLiteral leaf.text.toList then some leaf.text else none
  | .char => if isPlainLiteral leaf.text.toList then some leaf.text else none
  | _ => none

/-- The text of a default value on the callers' side, if it can be written as it stands. -/
def render : List TokenTree → Option String
  | [.leaf leaf] => renderLeaf leaf
  | [.leaf before, .group .paren inside _] => if before.text = "Some" then render inside else none
  | [.leaf before, .leaf number] =>
    if before.text = "-" && number.kind = .number then (renderNumber number.text).map ("-" ++ ·) else none
  | _ => none

/-- The integer that a default value stands for. -/
def integer? (trees : List TokenTree) : Option Int :=
  (render trees).bind fun text => Numeral.integer? text.toList

end Exposure.DefaultValue
