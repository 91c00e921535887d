import Exposure.Diagnostic
import Exposure.Syntax.Rules
import Exposure.Token.Lexer

namespace Exposure

/-- What a token list amounts to: items, the beginning of items, or a token that cannot stand where it does. -/
inductive Reading where
  | complete (items : List Item)
  | incomplete
  | spoiled (token : Token)
  deriving Repr

namespace Reading

/-- Read the items of a token list. -/
def ofTokens (tokens : List Token) : Reading :=
  match Grammar.run Rule.rules Rule.moduleItems tokens with
  | .error token => spoiled token
  | .ok remaining =>
    match remaining.empty? with
    | some items => complete items
    | none => incomplete

end Reading

/-- Read the items of a text; the first token or character that cannot stand where it does is reported. -/
def parse (text : String) : Outcome (List Item) :=
  let lexing := Lexing.ofText text
  match Reading.ofTokens lexing.tokens, lexing.failure with
  | .spoiled token, _ => Outcome.report (.point token.start) (.unexpectedToken token.text)
  | _, some (char, position) => Outcome.report (.point position) (.unexpectedCharacter char)
  | .complete items, none => .ok items
  | .incomplete, none => Outcome.report .unknown .unexpectedEnd

/-- Read a text of exactly one item. -/
def parseItem (text : String) : Outcome Item := do
  match ← parse text with
  | [item] => .ok item
  | items => Outcome.report .unknown (.itemCount items.length)

end Exposure
