import Exposure.Text.Blank
import Exposure.Text.Numeral

namespace Exposure.Report.Markup.Action

/-- Groups of digits with an underscore between each two. -/
def areGroups (isDigit : Char → Bool) (text : List Char) : Bool :=
  (text.splitOn '_').all fun group => !group.isEmpty && group.all isDigit

/-- The digits of a whole number in a marked radix. -/
def isMarked (text : List Char) : Bool :=
  match text with
  | '0' :: mark :: digits =>
    ['x', 'o', 'b'].contains mark.toLower &&
      areGroups (fun digit => digit ≠ '_' && Numeral.isRadixDigit mark.toLower digit)
        (if digits.head? = some '_' then digits.drop 1 else digits)
  | _ => false

/-- A whole decimal number, which begins with a zero only if it has no other digit. -/
def isWhole (text : List Char) : Bool :=
  areGroups Char.isDigit text && (text.head? ≠ some '0' || text.all fun char => char = '0' || char = '_')

/-- The digits on both sides of a point, of which one may be missing. -/
def isMantissa (text : List Char) : Bool :=
  match text.splitOn '.' with
  | [whole] => areGroups Char.isDigit whole
  | [whole, fraction] =>
    (whole.isEmpty || areGroups Char.isDigit whole) && (fraction.isEmpty || areGroups Char.isDigit fraction) &&
      !(whole.isEmpty && fraction.isEmpty)
  | _ => false

/-- Digits behind at most one sign. -/
def isExponent (text : List Char) : Bool :=
  areGroups Char.isDigit (if text.head?.any fun char => char = '+' || char = '-' then text.drop 1 else text)

/-- A number with a point or an exponent. -/
def isScientific (text : List Char) : Bool :=
  match text.splitOnP fun char => char = 'e' || char = 'E' with
  | [mantissa] => mantissa.contains '.' && isMantissa mantissa
  | [mantissa, exponent] => isMantissa mantissa && isExponent exponent
  | _ => false

/-- A number, which may be imaginary. -/
def isNumber (text : List Char) : Bool :=
  isMarked text || isWhole text || isScientific text ||
    (text.getLast?.any fun char => char = 'j' || char = 'J') && (isMantissa text.dropLast || isScientific text.dropLast)

/-- The length of the run of characters that may belong to a number, given the character before it. -/
def numberLength (before : Char) : List Char → Nat
  | [] => 0
  | char :: rest =>
    if char.isAlphanum || char = '_' || char = '.' || (before.toLower = 'e' && (char = '+' || char = '-')) then
      numberLength char rest + 1
    else 0

/-- The text behind the quote that ends a literal on the same line. -/
def behindQuote? (quote : Char) : List Char → Option (List Char)
  | [] => none
  | '\\' :: _ :: rest => behindQuote? quote rest
  | char :: rest => if char = quote then some rest else if char = '\n' then none else behindQuote? quote rest

/-- The text behind a literal in quotes, with the letters that may stand before it. -/
def behindText? (text : List Char) : Option (List Char) :=
  let letters := text.takeWhile Char.isAlpha
  if ["", "r", "u", "b", "br", "rb"].contains (String.ofList (letters.map Char.toLower)) then
    match text.drop letters.length with
    | '"' :: rest => behindQuote? '"' rest
    | '\'' :: rest => behindQuote? '\'' rest
    | _ => none
  else none

/-- The words that stand for values. -/
def valueWords : List (List Char) := ["True".toList, "False".toList, "None".toList]

/-- The text behind a number or a word that stands for a value. -/
def behindScalar? (text : List Char) : Option (List Char) :=
  let unsigned := if text.head?.any fun char => char = '+' || char = '-' then text.drop 1 else text
  let length := numberLength ' ' unsigned
  let scalar := unsigned.take length
  if isNumber scalar || (unsigned.length = text.length && valueWords.contains scalar) then some (unsigned.drop length)
  else none

/-- Drop the blanks at the beginning of a text. -/
def skipBlanks (text : List Char) : List Char := text.dropWhile fun char => char = ' ' || char = '\t' || char = '\n'

mutual

/-- The text behind a value and the blanks around it, as deep as the fuel reaches. -/
def behindValue? : Nat → List Char → Option (List Char)
  | 0, _ => none
  | fuel + 1, text =>
    (match skipBlanks text with
      | '(' :: rest => behindValues? fuel ')' rest
      | '\x7b' :: rest => behindValues? fuel '\x7d' rest
      | rest => (behindText? rest).or (behindScalar? rest)).map skipBlanks

/-- The text behind values and the bracket that ends them; each has a comma behind it, which the last may miss. -/
def behindValues? : Nat → Char → List Char → Option (List Char)
  | 0, _, _ => none
  | fuel + 1, closing, text =>
    if (skipBlanks text).head? = some closing then some ((skipBlanks text).drop 1)
    else
      match behindValue? fuel text with
      | some (separator :: rest) =>
        if separator = closing then some rest
        else if separator = ',' then behindValues? fuel closing rest
        else if separator = ':' && closing = '\x7d' then
          match behindValue? fuel rest with
          | some (',' :: others) => behindValues? fuel closing others
          | some (last :: others) => if last = closing then some others else none
          | _ => none
        else none
      | _ => none

end

/-- A text is one value, or several with commas between them. -/
def areValues (text : List Char) : Bool :=
  behindValues? (2 * text.length + 2) ')' (text ++ [')']) = some [] && !(skipBlanks text).isEmpty

/-- A character may stand in the name of an action. -/
def isNameChar (char : Char) : Bool := char.isAlphanum || char = '_' || char = '.' || 0x80 ≤ char.toNat

/-- The parameters of an action are the name of a handler, perhaps with values between parentheses, or values alone. -/
def isReadable (parameters : List Char) : Bool :=
  let trimmed := Text.trimEnds Text.isBlank parameters
  let arguments := trimmed.dropWhile isNameChar
  if arguments.isEmpty then true
  else if arguments.head? = some '(' && arguments.getLast? = some ')' && !arguments.contains '\n' then
    areValues arguments
  else areValues trimmed

end Exposure.Report.Markup.Action
