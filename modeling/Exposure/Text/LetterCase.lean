import Exposure.Text.LetterCase.Table

namespace Exposure.Text.LetterCase

/-- A code point lies in one of a list of closed ranges. -/
def inRanges (ranges : List (Nat × Nat)) (code : Nat) : Bool :=
  ranges.any fun (first, last) => first ≤ code && code ≤ last

/-- The counterpart of a code point in a list of strided ranges. -/
def counterpart? (ranges : List (Nat × Nat × Nat × Int)) (code : Nat) : Option Nat :=
  ranges.findSome? fun (first, last, stride, distance) =>
    if first ≤ code && code ≤ last && (code - first) % stride = 0 then some (code + distance).toNat else none

/-- The counterparts of a character beyond ASCII, which is its own counterpart where the tables are silent. -/
def convert (expansions : List (Nat × List Nat)) (ranges : List (Nat × Nat × Nat × Int)) (char : Char) :
    List Char :=
  match expansions.lookup char.toNat with
  | some codes => codes.map Char.ofNat
  | none => [((counterpart? ranges char.toNat).map Char.ofNat).getD char]

/-- A character is ASCII. -/
def isAscii (char : Char) : Bool := char.toNat < 0x80

/-- The upper case of a character. -/
def upperChar (char : Char) : List Char :=
  if isAscii char then [char.toUpper] else convert upperExpansions upperRanges char

/-- The form of a character at the beginning of a word. -/
def titleChar (char : Char) : List Char :=
  if isAscii char then [char.toUpper]
  else
    match titleExpansions.lookup char.toNat with
    | some codes => codes.map Char.ofNat
    | none => upperChar char

/-- A character has case. -/
def isCased (char : Char) : Bool :=
  if isAscii char then char.isAlpha else inRanges casedRanges char.toNat

/-- A character is passed over when the form of a sigma beside it is chosen. -/
def isIgnorable (char : Char) : Bool :=
  if isAscii char then ['\'', '.', ':', '^', '`'].contains char else inRanges ignorableRanges char.toNat

/-- The nearest character that is not passed over has case. -/
def touchesCased (nearest : List Char) : Bool := ((nearest.dropWhile isIgnorable).head?).any isCased

/-- The lower case of a character, given what stands before it, nearest first, and behind it. -/
def lowerChar (before : List Char) (char : Char) (behind : List Char) : List Char :=
  if isAscii char then [char.toLower]
  else if char = 'Σ' then
    if touchesCased before && !touchesCased behind then ['ς'] else ['σ']
  else convert lowerExpansions lowerRanges char

/-- The lower case of a text, of which the beginning has been passed. -/
def lowerFrom (before : List Char) : List Char → List Char
  | [] => []
  | char :: behind => lowerChar before char behind ++ lowerFrom (char :: before) behind

/-- The lower case of a text. -/
def lower (text : List Char) : List Char := lowerFrom [] text

/-- The upper case of a text. -/
def upper (text : List Char) : List Char := text.flatMap upperChar

/-- A text in lower case whose first character has its form at the beginning of a word. -/
def capitalize : List Char → List Char
  | [] => []
  | first :: rest => titleChar first ++ lowerFrom [first] rest

end Exposure.Text.LetterCase
