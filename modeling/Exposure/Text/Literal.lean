import Exposure.Diagnostic
import Exposure.Token.Lexeme

namespace Exposure.Literal

/-- The hexadecimal digits of a number without leading zeros. -/
def hexText (value : Nat) : List Char := Nat.toDigits 16 value

/-- How a character stands in a string literal. -/
def encodeChar (char : Char) : List Char :=
  if char = '\\' then ['\\', '\\']
  else if char = '"' then ['\\', '"']
  else if char = '\n' then ['\\', 'n']
  else if char = '\r' then ['\\', 'r']
  else if char = '\t' then ['\\', 't']
  else if char.toNat = 0 then ['\\', '0']
  else if char.toNat < 0x20 || char.toNat = 0x7F then '\\' :: 'u' :: '{' :: hexText char.toNat ++ ['}']
  else [char]

/-- The string literal of a text. -/
def encode (text : String) : String :=
  String.ofList ('"' :: text.toList.flatMap encodeChar ++ ['"'])

/-- The literal of a text that may be missing. -/
def encodeOption : Option String → String
  | none => "None"
  | some text => "Some(" ++ encode text ++ ")"

/-- The value of a hexadecimal digit. -/
def hexValue (char : Char) : Nat :=
  if char.isDigit then char.toNat - '0'.toNat
  else if char.isLower then char.toNat - 'a'.toNat + 10
  else char.toNat - 'A'.toNat + 10

/-- The number that hexadecimal digits denote. -/
def ofHexDigits (digits : List Char) : Nat :=
  digits.foldl (fun value digit => value * 16 + hexValue digit) 0

/-- The digits of a code point escape behind its backslash. -/
def codePointDigits? : List Char → Option (List Char)
  | 'u' :: '{' :: rest =>
    let digits := rest.takeWhile Lexeme.isHexDigit
    if !digits.isEmpty && (rest.drop digits.length).head? = some '}' then some digits else none
  | _ => none

/-- The character that a code point escape denotes. -/
def ofCodePoint (value : Nat) : Outcome Char :=
  if value.isValidChar then .ok (Char.ofNat value) else .error (.codePoint value)

/-- The character that a letter behind a backslash denotes; most denote themselves. -/
def escapedChar (letter : Char) : Char :=
  if letter = 'n' then '\n'
  else if letter = 't' then '\t'
  else if letter = 'r' then '\r'
  else if letter = '0' then Char.ofNat 0
  else letter

/-- Read the body of a literal of which the first characters may belong to an escape already read. -/
def decodeFrom : Nat → List Char → Outcome (List Char)
  | _, [] => .ok []
  | inside + 1, _ :: rest => decodeFrom inside rest
  | 0, char :: rest =>
    if char = '\\' then
      match codePointDigits? rest, rest with
      | some digits, _ => do
        let denoted ← ofCodePoint (ofHexDigits digits)
        let others ← decodeFrom (digits.length + 3) rest
        return denoted :: others
      | none, letter :: _ =>
        if letter = '\n' then do return char :: (← decodeFrom 0 rest)
        else do return escapedChar letter :: (← decodeFrom 1 rest)
      | none, [] => .ok [char]
    else do return char :: (← decodeFrom 0 rest)

/-- Drop the first and the last character. -/
def dropEnds (text : List Char) : List Char := (text.drop 1).dropLast

/-- The text that a literal denotes; a raw literal denotes what stands between its quotes. -/
def decode (literal : String) : Outcome String := do
  let body := match literal.toList with
    | 'b' :: rest => rest
    | rest => rest
  match body with
  | 'r' :: _ => return String.ofList (dropEnds (Text.trimEnds (· = '#') (body.dropWhile (· = 'r'))))
  | _ => return String.ofList (← decodeFrom 0 (dropEnds body))

end Exposure.Literal
