import Exposure.Text.LetterCase
import Exposure.Text.Width.Table

namespace Exposure.Text.Width

/-- The character that joins the characters beside it into one shape. -/
def joiner : Char := Char.ofNat 0x200D

/-- The character that shows the character before it as an emoji. -/
def emojiSelector : Char := Char.ofNat 0xFE0F

/-- The number of columns that a character takes on its own. -/
def ofChar (char : Char) : Nat :=
  let code := char.toNat
  if code < 0x80 then if 0x20 ≤ code && code < 0x7F then 1 else 0
  else if LetterCase.inRanges emptyRanges code then 0
  else if LetterCase.inRanges doubleRanges code then 2
  else 1

/-- A character takes one more column as an emoji. -/
def widens (char : Char) : Bool := LetterCase.inRanges emojiRanges char.toNat

/-- The number of columns that a text takes behind a character that a selector may widen; a joiner hides the next. -/
def ofTextBehind (last : Option Char) : List Char → Nat
  | [] => 0
  | char :: rest =>
    if char = joiner then
      match rest with
      | [] => 0
      | _ :: behind => ofTextBehind last behind
    else if char = emojiSelector then (if last.any widens then 1 else 0) + ofTextBehind none rest
    else if ofChar char = 0 then ofTextBehind last rest
    else ofChar char + ofTextBehind (some char) rest

/-- The number of columns that a text takes. -/
def ofText (text : List Char) : Nat := ofTextBehind none text

/-- A stretch of a text that is never cut, and the number of columns that it takes. -/
structure Cluster where
  text : List Char
  width : Nat
  deriving Repr

/-- Cut a text before every character that takes a column of its own, given the cluster begun and its last character. -/
def clustersFrom (begun : Cluster) (last : Option Char) : List Char → List Cluster
  | [] => if begun.text.isEmpty then [] else [begun]
  | char :: rest =>
    if char = joiner && !begun.text.isEmpty then
      match rest with
      | [] => [⟨begun.text ++ [char], begun.width⟩]
      | next :: behind => clustersFrom ⟨begun.text ++ [char, next], begun.width⟩ last behind
    else if char = emojiSelector then
      clustersFrom ⟨begun.text ++ [char], begun.width + if last.any widens then 1 else 0⟩ none rest
    else if ofChar char = 0 then clustersFrom ⟨begun.text ++ [char], begun.width⟩ last rest
    else if begun.text.isEmpty then clustersFrom ⟨[char], ofChar char⟩ (some char) rest
    else begun :: clustersFrom ⟨[char], ofChar char⟩ (some char) rest

/-- The clusters of a text. -/
def clusters (text : List Char) : List Cluster := clustersFrom ⟨[], 0⟩ none text

/-- The clusters at the beginning of a text that fit into some columns. -/
def fitting (limit : Nat) : List Cluster → List Cluster
  | [] => []
  | cluster :: rest => if cluster.width ≤ limit then cluster :: fitting (limit - cluster.width) rest else []

/-- Blanks that fill some columns. -/
def blanks (count : Nat) : List Char := List.replicate count ' '

/-- Cut a text at a column; half a wide cluster becomes a blank. -/
def cut (limit : Nat) (text : List Char) : List Char :=
  let beginning := fitting limit (clusters text)
  beginning.flatMap (·.text) ++ blanks (limit - beginning.foldl (fun total cluster => total + cluster.width) 0)

end Exposure.Text.Width
