import Exposure.Diagnostic
import Exposure.Token.Lexeme

namespace Exposure.Numeral

/-- The type suffixes that a number literal may end with. -/
def suffixes : List (List Char) :=
  ["i8", "i16", "i32", "i64", "i128", "isize", "u8", "u16", "u32", "u64", "u128", "usize", "f32", "f64"].map
    String.toList

/-- A character is a digit of a radix or an underscore. -/
def isRadixDigit (radix char : Char) : Bool :=
  char = '_' ||
    (if radix = 'x' then Lexeme.isHexDigit char
    else if radix = 'o' then '0' ≤ char && char ≤ '7'
    else char = '0' || char = '1')

/-- The length of a number in a marked radix without its suffix. -/
def radixLength? : List Char → Option Nat
  | '0' :: radix :: rest =>
    let digits := Lexeme.run (isRadixDigit radix) rest
    if (radix = 'x' || radix = 'o' || radix = 'b') && 0 < digits then some (digits + 2) else none
  | _ => none

/-- The length of a decimal number without its suffix. -/
def decimalLength? : List Char → Option Nat
  | first :: rest =>
    if first.isDigit then
      let whole := 1 + Lexeme.run Lexeme.continuesDecimal rest
      let fractional := whole + Lexeme.fraction ((first :: rest).drop whole)
      some (fractional + Lexeme.exponent ((first :: rest).drop fractional))
    else none
  | [] => none

/-- Cut a number behind a length at which only a type suffix, or nothing, may follow. -/
def cutAt (number : List Char) (length : Nat) : Option (List Char) :=
  let suffix := number.drop length
  if suffix.isEmpty || suffixes.contains suffix then some (number.take length) else none

/-- A number literal without its type suffix; a word behind it that is no such suffix spoils it. -/
def bare? (number : List Char) : Option (List Char) :=
  ((radixLength? number).bind (cutAt number)).or ((decimalLength? number).bind (cutAt number))

/-- The most decimal digits that a number may be read from or written with. -/
def maxDigits : Nat := 4300

/-- The value of a digit in a radix. -/
def digitValue? (radix : Nat) (char : Char) : Option Nat :=
  let value :=
    if char.isDigit then char.toNat - '0'.toNat
    else if char.isLower then char.toNat - 'a'.toNat + 10
    else if char.isUpper then char.toNat - 'A'.toNat + 10
    else radix
  if value < radix then some value else none

/-- The number that digits of a radix denote; there must be one digit at least. -/
def ofDigits? (radix : Nat) (digits : List Char) : Option Nat :=
  if digits.isEmpty then none
  else digits.foldlM (fun value digit => (digitValue? radix digit).map (value * radix + ·)) 0

/-- The natural number that a bare literal without underscores denotes. -/
def natural? (literal : List Char) : Option Nat :=
  match literal with
  | '0' :: 'x' :: digits => ofDigits? 16 digits
  | '0' :: 'o' :: digits => ofDigits? 8 digits
  | '0' :: 'b' :: digits => ofDigits? 2 digits
  | digits => if digits.length ≤ maxDigits then ofDigits? 10 digits else none

/-- The integer that a bare literal, perhaps with a minus sign, denotes. -/
def integer? (literal : List Char) : Option Int :=
  match literal.filter (· ≠ '_') with
  | '-' :: digits => (natural? digits).map fun value => -(value : Int)
  | digits => (natural? digits).map fun value => (value : Int)

/-- The decimal text of an integer, unless it has too many digits. -/
def decimal (value : Int) : Outcome String :=
  if (toString value.natAbs).length ≤ maxDigits then .ok (toString value) else .error .numeral

end Exposure.Numeral
