import Exposure.Text.Blank
import Exposure.Text.Emoji.Table
import Exposure.Text.LetterCase

namespace Exposure.Text.Emoji

/-- Every name of an emoji with its emoji. -/
def table : List (List Char × List Char) :=
  (wordsOf names.toList).zip (codePoints.map fun codes => codes.map Char.ofNat)

/-- The emoji of a name, whose letters may be capital. -/
def ofName? (name : List Char) : Option (List Char) := table.lookup (LetterCase.lower name)

/-- The endings of a code that choose how its emoji is shown, each with the selector that it stands for. -/
def variants : List (List Char × Char) := [("-emoji".toList, Char.ofNat 0xFE0F), ("-text".toList, Char.ofNat 0xFE0E)]

/-- The emoji of the inside of a code, perhaps with a selector. -/
def ofCode? (code : List Char) : Option (List Char) :=
  match variants.find? fun (ending, _) => ending.isSuffixOf code with
  | some (ending, selector) => (ofName? (code.take (code.length - ending.length))).map (· ++ [selector])
  | none => ofName? code

/-- The inside of the code that stands behind a colon, which has no blank and ends before the next colon. -/
def code? (text : List Char) : Option (List Char) :=
  let inside := text.takeWhile fun char => char ≠ ':' && !isBlank char
  if (text.drop inside.length).head? = some ':' then some inside else none

/-- Replace the codes of emoji in a text of which the first characters may belong to a code already read. -/
def replaceFrom : Nat → List Char → List Char
  | _, [] => []
  | inside + 1, _ :: rest => replaceFrom inside rest
  | 0, char :: rest =>
    if char = ':' then
      match code? rest with
      | some code => (ofCode? code).getD (':' :: code ++ [':']) ++ replaceFrom (code.length + 1) rest
      | none => char :: replaceFrom 0 rest
    else char :: replaceFrom 0 rest

/-- Replace every code between colons that names an emoji. -/
def replace (text : List Char) : List Char := replaceFrom 0 text

end Exposure.Text.Emoji
