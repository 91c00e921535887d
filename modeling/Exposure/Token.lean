namespace Exposure

/-- A position counts the characters before a place in a text, and its line and column from one. -/
structure Position where
  offset : Nat
  line : Nat
  column : Nat
  deriving DecidableEq, Repr, Inhabited

namespace Position

/-- A text begins on line one at column one. -/
def start : Position := ⟨0, 1, 1⟩

/-- Only a newline begins a new line; every other character takes one column. -/
def after (position : Position) (passed : Char) : Position :=
  if passed = '\n' then ⟨position.offset + 1, position.line + 1, 1⟩
  else ⟨position.offset + 1, position.line, position.column + 1⟩

/-- The position behind a run of characters. -/
def past (position : Position) (passed : List Char) : Position :=
  passed.foldl after position

/-- Passing characters moves the offset by their number. -/
theorem offset_past (position : Position) (passed : List Char) :
    (position.past passed).offset = position.offset + passed.length := by
  induction passed generalizing position with
  | nil => rfl
  | cons first others step =>
    have moved : (position.after first).offset = position.offset + 1 := by
      unfold after
      split <;> rfl
    rw [show position.past (first :: others) = (position.after first).past others from rfl, step, moved,
      List.length_cons, Nat.add_assoc, Nat.add_comm 1]

end Position

/-- A reserved word of the declaration language. -/
inductive Keyword where
  | asyncWord | constWord | dynWord | enumWord | externWord | fnWord | forWord | implWord | modWord | mutWord
  | pubWord | staticWord | structWord | traitWord | typeWord | unsafeWord | useWord | whereWord
  deriving DecidableEq, Repr

namespace Keyword

/-- Every reserved word. -/
def all : List Keyword :=
  [asyncWord, constWord, dynWord, enumWord, externWord, fnWord, forWord, implWord, modWord, mutWord, pubWord,
    staticWord, structWord, traitWord, typeWord, unsafeWord, useWord, whereWord]

/-- The spelling of a reserved word. -/
def text : Keyword → String
  | asyncWord => "async"
  | constWord => "const"
  | dynWord => "dyn"
  | enumWord => "enum"
  | externWord => "extern"
  | fnWord => "fn"
  | forWord => "for"
  | implWord => "impl"
  | modWord => "mod"
  | mutWord => "mut"
  | pubWord => "pub"
  | staticWord => "static"
  | structWord => "struct"
  | traitWord => "trait"
  | typeWord => "type"
  | unsafeWord => "unsafe"
  | useWord => "use"
  | whereWord => "where"

/-- The reserved word with a given spelling. -/
def ofText? (text : String) : Option Keyword :=
  all.find? fun keyword => keyword.text = text

end Keyword

/-- A punctuation mark of the declaration language. -/
inductive Punctuation where
  | pathSeparator | arrow | hash | bang | openBracket | closeBracket | openParen | closeParen | equals | openBrace
  | closeBrace | comma | colon | semicolon | less | greater | ampersand | star | slash | plus | minus | dot
  | question | atSign | bar | caret | percent | dollar | tilde
  deriving DecidableEq, Repr

namespace Punctuation

/-- Every punctuation mark, the two-character marks first. -/
def all : List Punctuation :=
  [pathSeparator, arrow, hash, bang, openBracket, closeBracket, openParen, closeParen, equals, openBrace, closeBrace,
    comma, colon, semicolon, less, greater, ampersand, star, slash, plus, minus, dot, question, atSign, bar, caret,
    percent, dollar, tilde]

/-- The spelling of a punctuation mark. -/
def text : Punctuation → String
  | pathSeparator => "::"
  | arrow => "->"
  | hash => "#"
  | bang => "!"
  | openBracket => "["
  | closeBracket => "]"
  | openParen => "("
  | closeParen => ")"
  | equals => "="
  | openBrace => "\x7b"
  | closeBrace => "\x7d"
  | comma => ","
  | colon => ":"
  | semicolon => ";"
  | less => "<"
  | greater => ">"
  | ampersand => "&"
  | star => "*"
  | slash => "/"
  | plus => "+"
  | minus => "-"
  | dot => "."
  | question => "?"
  | atSign => "@"
  | bar => "|"
  | caret => "^"
  | percent => "%"
  | dollar => "$"
  | tilde => "~"

/-- The mark that begins a text, a longer mark before a shorter one. -/
def ofText? : List Char → Option Punctuation
  | ':' :: ':' :: _ => some pathSeparator
  | '-' :: '>' :: _ => some arrow
  | '#' :: _ => some hash
  | '!' :: _ => some bang
  | '[' :: _ => some openBracket
  | ']' :: _ => some closeBracket
  | '(' :: _ => some openParen
  | ')' :: _ => some closeParen
  | '=' :: _ => some equals
  | '{' :: _ => some openBrace
  | '}' :: _ => some closeBrace
  | ',' :: _ => some comma
  | ':' :: _ => some colon
  | ';' :: _ => some semicolon
  | '<' :: _ => some less
  | '>' :: _ => some greater
  | '&' :: _ => some ampersand
  | '*' :: _ => some star
  | '/' :: _ => some slash
  | '+' :: _ => some plus
  | '-' :: _ => some minus
  | '.' :: _ => some dot
  | '?' :: _ => some question
  | '@' :: _ => some atSign
  | '|' :: _ => some bar
  | '^' :: _ => some caret
  | '%' :: _ => some percent
  | '$' :: _ => some dollar
  | '~' :: _ => some tilde
  | _ => none

end Punctuation

/-- The class of a token, which is all that the grammar looks at. -/
inductive Terminal where
  | ident | number | string | rawString | char | lifetime | docComment
  | word (keyword : Keyword)
  | mark (punctuation : Punctuation)
  deriving DecidableEq, Repr

/-- A token is a stretch of the text with its class. -/
structure Token where
  terminal : Terminal
  text : String
  start : Position
  stop : Position
  deriving DecidableEq, Repr

end Exposure
