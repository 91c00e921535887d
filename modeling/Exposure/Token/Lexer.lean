import Exposure.Token.Lexeme

namespace Exposure

/-- A lexeme is a stretch of the text with the class that took it. -/
structure Lexeme where
  kind : LexemeClass
  text : List Char
  start : Position
  deriving DecidableEq, Repr

namespace Lexeme

/-- The position behind a lexeme. -/
def stop (lexeme : Lexeme) : Position := lexeme.start.past lexeme.text

/-- The token of a lexeme; an identifier that spells a reserved word is that word. -/
def token? (lexeme : Lexeme) : Option Token :=
  lexeme.kind.map fun terminal =>
    let text := String.ofList lexeme.text
    let resolved := match terminal with
      | .ident => ((Keyword.ofText? text).map Terminal.word).getD .ident
      | other => other
    ⟨resolved, text, lexeme.start, lexeme.stop⟩

end Lexeme

/-- The lexemes of a text up to its end or to the first character that begins none. -/
structure Lexing where
  lexemes : List Lexeme
  failure : Option (Char × Position)
  deriving Repr

namespace Lexing

/-- The tokens among the lexemes. -/
def tokens (lexing : Lexing) : List Token := lexing.lexemes.filterMap Lexeme.token?

/-- Put a lexeme before those already read. -/
def cons (first : Lexeme) (lexing : Lexing) : Lexing := ⟨first :: lexing.lexemes, lexing.failure⟩

/-- Read lexemes from a text whose first characters may still belong to the lexeme before it. -/
def scan : Nat → Position → List Char → Lexing
  | _, _, [] => ⟨[], none⟩
  | inside + 1, position, passed :: rest => scan inside (position.after passed) rest
  | 0, position, first :: rest =>
    match Lexeme.first? (first :: rest) with
    | some (kind, inside + 1) =>
      cons ⟨kind, (first :: rest).take (inside + 1), position⟩ (scan inside (position.after first) rest)
    | _ => ⟨[], some (first, position)⟩

/-- Read the lexemes of a whole text. -/
def ofText (text : String) : Lexing := scan 0 .start text.toList

end Lexing

end Exposure
