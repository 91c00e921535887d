import Exposure.Text.Blank
import Exposure.Text.Width

namespace Exposure.Text.Wrap

/-- What happens to a word that is wider than a line: it is folded into several lines, or cut with an ellipsis. -/
inductive Overflow where
  | fold | ellipsis
  deriving DecidableEq, Repr

/-- Cut a text before every word but the first, given the part of a word already read and whether it has begun. -/
def wordsFrom (word : List Char) (begun : Bool) : List Char → List (List Char)
  | [] => [word]
  | char :: rest =>
    if isBlank char then wordsFrom (word ++ [char]) begun rest
    else if begun && (word.getLast?).any isBlank then word :: wordsFrom [char] true rest
    else wordsFrom (word ++ [char]) true rest

/-- The words of a text with the blanks behind them, and the first also with those before it. -/
def words (text : List Char) : List (List Char) := wordsFrom [] false text

/-- Put clusters on lines that are full, given the line already begun and its width. -/
def pack (limit : Nat) (line : List Char) (width : Nat) : List Width.Cluster → List (List Char)
  | [] => [line]
  | cluster :: rest =>
    if width + cluster.width ≤ limit then pack limit (line ++ cluster.text) (width + cluster.width) rest
    else line :: pack limit cluster.text cluster.width rest

/-- Cut a word into pieces that fit. -/
def chop (limit : Nat) (word : List Char) : List (List Char) := pack limit [] 0 (Width.clusters word)

/-- The lines that are full once a line is left, which has none if it is empty. -/
def finished (line : List Char) : List (List Char) := if line.isEmpty then [] else [line]

/-- Put words on lines, given the line already begun and the columns taken on it. -/
def fill (limit : Nat) (overflow : Overflow) (line : List Char) (taken : Nat) : List (List Char) → List (List Char)
  | [] => [line]
  | word :: rest =>
    let needed := Width.ofText (dropTail isBlank word)
    if taken + needed ≤ limit then fill limit overflow (line ++ word) (taken + Width.ofText word) rest
    else if limit < needed && overflow = .fold then
      let pieces := chop limit word
      let last := pieces.getLast?.getD []
      finished line ++ pieces.dropLast ++ fill limit overflow last (Width.ofText last) rest
    else finished line ++ fill limit overflow word (Width.ofText word) rest

/-- Drop blanks beyond the limit from the end of a line. -/
def dropExcess (limit : Nat) (line : List Char) : List Char :=
  let tail := line.length - (dropTail isBlank line).length
  line.take (line.length - min tail (line.length - limit))

/-- Cut a line that does not fit. -/
def truncate (limit : Nat) (overflow : Overflow) (line : List Char) : List Char :=
  if Width.ofText line ≤ limit then line
  else
    match overflow with
    | .fold => Width.cut limit line
    | .ellipsis => Width.cut (limit - 1) line ++ ['…']

/-- The distance between tab stops. -/
def tabStop : Nat := 8

/-- Replace every tab by at least one blank, up to the next tab stop, given the last one and the text behind it. -/
def expandTabsFrom (stop : Nat) (part : List Char) : List Char → List Char
  | [] => part
  | char :: rest =>
    if char = '\t' then
      let written := part ++ [' ']
      let reached := stop + Width.ofText written
      let next := (reached + tabStop - 1) / tabStop * tabStop
      written ++ Width.blanks (next - reached) ++ expandTabsFrom next [] rest
    else expandTabsFrom stop (part ++ [char]) rest

/-- Replace every tab of a text. -/
def expandTabs (text : List Char) : List Char := expandTabsFrom 0 [] text

/-- The lines of a text that has no line feed, some of which may still be too long. -/
def lines (limit : Nat) (overflow : Overflow) (text : List Char) : List (List Char) :=
  (fill limit overflow [] 0 (words (expandTabs text))).map (dropExcess limit)

end Exposure.Text.Wrap
