import Exposure.Token

namespace Exposure.Lexeme

/-- A letter or an underscore begins an identifier. -/
def beginsIdent (char : Char) : Bool := char.isAlpha || char = '_'

/-- Letters, digits and underscores continue an identifier. -/
def continuesIdent (char : Char) : Bool := char.isAlphanum || char = '_'

/-- Digits and underscores continue a decimal number. -/
def continuesDecimal (char : Char) : Bool := char.isDigit || char = '_'

/-- The digits of a hexadecimal number. -/
def isHexDigit (char : Char) : Bool :=
  char.isDigit || ('a' ≤ char && char ≤ 'f') || ('A' ≤ char && char ≤ 'F')

/-- The number of leading characters of one kind. -/
def run (kind : Char → Bool) (input : List Char) : Nat := (input.takeWhile kind).length

/-- The length up to the end of the first occurrence of two adjacent characters. -/
def through? (first second : Char) : List Char → Option Nat
  | one :: two :: rest =>
    if one = first && two = second then some 2 else (through? first second (two :: rest)).map (· + 1)
  | _ => none

/-- Skip the mark of a byte literal. -/
def afterByteMark : List Char → Nat × List Char
  | 'b' :: rest => (1, rest)
  | input => (0, input)

/-- A documentation comment begins with exactly three slashes and ends with its line. -/
def docComment? : List Char → Option Nat
  | '/' :: '/' :: '/' :: rest => if rest.head? = some '/' then none else some (3 + run (· ≠ '\n') rest)
  | _ => none

/-- A raw string with a hash ends at the first quote that a hash follows; one without ends at the first quote. -/
def rawString? (input : List Char) : Option Nat :=
  let (marked, body) := afterByteMark input
  match body with
  | 'r' :: '#' :: '"' :: rest => (through? '"' '#' rest).map (marked + 3 + ·)
  | 'r' :: '"' :: rest =>
    let inside := run (· ≠ '"') rest
    if inside < rest.length then some (marked + 2 + inside + 1) else none
  | _ => none

/-- The length of a string body with its closing quote; a backslash takes the next character of its line with it. -/
def stringBody? : List Char → Option Nat
  | [] => none
  | '"' :: _ => some 1
  | '\\' :: [] => none
  | '\\' :: escaped :: rest => if escaped = '\n' then none else (stringBody? rest).map (· + 2)
  | _ :: rest => (stringBody? rest).map (· + 1)

/-- A string literal, with or without the byte mark. -/
def string? (input : List Char) : Option Nat :=
  let (marked, body) := afterByteMark input
  match body with
  | '"' :: rest => (stringBody? rest).map (marked + 1 + ·)
  | _ => none

/-- The length of a code point escape in braces, one to six hexadecimal digits long. -/
def codePointEscape? : List Char → Option Nat
  | '\\' :: 'u' :: '{' :: rest =>
    let digits := run isHexDigit rest
    if 0 < digits && digits ≤ 6 && (rest.drop digits).head? = some '}' then some (digits + 4) else none
  | _ => none

/-- The length of the one character of a character literal, with its closing quote. -/
def charBody? (body : List Char) : Option Nat :=
  let closed (length : Nat) : Option Nat :=
    if (body.drop length).head? = some '\'' then some (length + 1) else none
  ((codePointEscape? body).bind closed).or
    (match body with
    | '\\' :: escaped :: _ => if escaped = '\n' then none else closed 2
    | plain :: _ => if plain = '\'' || plain = '\\' || plain = '\n' then none else closed 1
    | [] => none)

/-- A character literal, with or without the byte mark. -/
def char? (input : List Char) : Option Nat :=
  let (marked, body) := afterByteMark input
  match body with
  | '\'' :: rest => (charBody? rest).map (marked + 1 + ·)
  | _ => none

/-- A number in a marked radix needs one digit or underscore; any word characters may follow as a suffix. -/
def radixNumber? : List Char → Option Nat
  | '0' :: radix :: first :: rest =>
    let isDigit := first = '_' ||
      (match radix with
      | 'x' => isHexDigit first
      | 'o' => '0' ≤ first && first ≤ '7'
      | 'b' => first = '0' || first = '1'
      | _ => false)
    if (radix = 'x' || radix = 'o' || radix = 'b') && isDigit then some (3 + run continuesIdent rest) else none
  | _ => none

/-- The length of a fraction, which needs a digit behind its point. -/
def fraction : List Char → Nat
  | '.' :: first :: rest => if first.isDigit then 2 + run continuesDecimal rest else 0
  | _ => 0

/-- The length of an exponent, which needs a digit or underscore behind its sign. -/
def exponent : List Char → Nat
  | letter :: rest =>
    if letter = 'e' || letter = 'E' then
      let signed := match rest with
        | '+' :: _ => 1
        | '-' :: _ => 1
        | _ => 0
      let digits := run continuesDecimal (rest.drop signed)
      if 0 < digits then 1 + signed + digits else 0
    else 0
  | [] => 0

/-- A decimal number may have a fraction, an exponent and a suffix of word characters. -/
def decimalNumber? : List Char → Option Nat
  | first :: rest =>
    if first.isDigit then
      let whole := 1 + run continuesDecimal rest
      let fractional := whole + fraction ((first :: rest).drop whole)
      let scaled := fractional + exponent ((first :: rest).drop fractional)
      some (scaled + run continuesIdent ((first :: rest).drop scaled))
    else none
  | [] => none

/-- A number literal. -/
def number? (input : List Char) : Option Nat := (radixNumber? input).or (decimalNumber? input)

/-- A plain identifier. -/
def plainIdent? : List Char → Option Nat
  | first :: rest => if beginsIdent first then some (1 + run continuesIdent rest) else none
  | [] => none

/-- An identifier, with or without the raw mark. -/
def ident? (input : List Char) : Option Nat :=
  match input with
  | 'r' :: '#' :: rest => ((plainIdent? rest).map (2 + ·)).or (plainIdent? input)
  | _ => plainIdent? input

/-- A lifetime stops before a closing quote, giving back one character if it has to. -/
def lifetime? : List Char → Option Nat
  | '\'' :: rest =>
    (plainIdent? rest).bind fun length =>
      if (rest.drop length).head? = some '\'' then (if 1 < length then some length else none) else some (1 + length)
  | _ => none

/-- A line comment begins with two slashes, or with more than three. -/
def lineComment? : List Char → Option Nat
  | '/' :: '/' :: rest =>
    let isDoc : Bool := match rest with
      | '/' :: next :: _ => next ≠ '/'
      | _ => false
    if isDoc then none else some (2 + run (· ≠ '\n') rest)
  | _ => none

/-- A block comment ends at the first closing mark behind its opening mark. -/
def blockComment? : List Char → Option Nat
  | '/' :: '*' :: rest => (through? '*' '/' rest).map (2 + ·)
  | _ => none

/-- The characters between tokens. -/
def isBlank (char : Char) : Bool :=
  char = ' ' || char = '\t' || char = '\x0c' || char = '\r' || char = '\n'

/-- A run of blanks. -/
def blank? (input : List Char) : Option Nat :=
  let length := run isBlank input
  if 0 < length then some length else none

end Lexeme

/-- A lexeme carries a token class, or none when it only separates tokens. -/
abbrev LexemeClass := Option Terminal

/-- The classes in the order in which they are tried, with the length that each takes from a text. -/
def Lexeme.classes (input : List Char) : List (Option (LexemeClass × Nat)) :=
  [(docComment? input).map (some .docComment, ·),
   (rawString? input).map (some .rawString, ·),
   (string? input).map (some .string, ·),
   (char? input).map (some .char, ·),
   (number? input).map (some .number, ·),
   (ident? input).map (some .ident, ·),
   (lifetime? input).map (some .lifetime, ·),
   (lineComment? input).map (none, ·),
   (blockComment? input).map (none, ·),
   (blank? input).map (none, ·),
   (Punctuation.ofText? input).map fun punctuation => (some (.mark punctuation), punctuation.text.length)]

/-- The lexeme that begins a text is of the first class that takes anything from it. -/
def Lexeme.first? (input : List Char) : Option (LexemeClass × Nat) := (classes input).findSome? id

end Exposure
