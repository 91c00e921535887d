import Exposure.Report.Markup.Color
import Exposure.Text.LetterCase

namespace Exposure.Report.Markup

/-- What a style may do to a text besides coloring it. -/
inductive Effect where
  | bold | dim | italic | underline | blink | fastBlink | reverse | conceal | strike | doubleUnderline | frame
  | encircle | overline
  deriving DecidableEq, Repr

namespace Effect

/-- Every effect, in the order in which they are written. -/
def all : List Effect :=
  [bold, dim, italic, underline, blink, fastBlink, reverse, conceal, strike, doubleUnderline, frame, encircle,
    overline]

/-- The name of an effect. -/
def text : Effect → String
  | bold => "bold"
  | dim => "dim"
  | italic => "italic"
  | underline => "underline"
  | blink => "blink"
  | fastBlink => "blink2"
  | reverse => "reverse"
  | conceal => "conceal"
  | strike => "strike"
  | doubleUnderline => "underline2"
  | frame => "frame"
  | encircle => "encircle"
  | overline => "overline"

/-- The short names of the effects that have one. -/
def shortNames : List (String × Effect) :=
  [("d", dim), ("b", bold), ("i", italic), ("u", underline), ("r", reverse), ("c", conceal), ("s", strike),
    ("uu", doubleUnderline), ("o", overline)]

/-- The effect of a name. -/
def ofName? (name : List Char) : Option Effect :=
  (all.find? fun effect => effect.text.toList = name).or (shortNames.lookup (String.ofList name))

end Effect

/-- A style: the effects that it switches on or off, its colors, and the target that it links to. -/
structure Style where
  effects : List (Effect × Bool)
  color : Option (List Char)
  background : Option (List Char)
  link : Option (List Char)
  deriving Repr

namespace Style

/-- The style that does nothing. -/
def plain : Style := ⟨[], none, none, none⟩

/-- Switch an effect, whatever was asked before. -/
def switch (effect : Effect) (active : Bool) (style : Style) : Style :=
  { style with effects := (effect, active) :: style.effects }

/-- Read the words of a style, given what is read so far. -/
def readFrom (style : Style) : List (List Char) → Except Failure (Option Style)
  | [] => .ok (some style)
  | word :: rest =>
    let lowered := Text.LetterCase.lower word
    if lowered = "on".toList then
      match rest with
      | [] => .ok none
      | color :: others => do
        let background := Text.LetterCase.lower color
        if ← Color.isColor background then readFrom { style with background := some background } others
        else return none
    else if lowered = "not".toList then
      match rest with
      | [] => .ok none
      | name :: others =>
        match Effect.ofName? name with
        | some effect => readFrom (style.switch effect false) others
        | none => .ok none
    else if lowered = "link".toList then
      match rest with
      | [] => .ok none
      | target :: others => readFrom { style with link := some target } others
    else
      match Effect.ofName? lowered with
      | some effect => readFrom (style.switch effect true) rest
      | none => do
        if ← Color.isColor lowered then readFrom { style with color := some lowered } rest else return none

/-- The words of a style, each effect once and in order. -/
def words (style : Style) : List (List Char) :=
  (Effect.all.filterMap fun effect =>
      (style.effects.lookup effect).map fun active => (if active then "" else "not ").toList ++ effect.text.toList) ++
    style.color.toList ++ (style.background.map ("on ".toList ++ ·)).toList ++
    (style.link.map ("link ".toList ++ ·)).toList

/-- Write a style. -/
def render (style : Style) : List Char :=
  if style.words.isEmpty then "none".toList else " ".toList.intercalate style.words

/-- The name by which a style is found again: two names of one style agree, and any other name is its own. -/
def normalize (name : List Char) : Except Failure (List Char) := do
  match ← readFrom plain (Text.wordsOf name) with
  | some style => return style.render
  | none => return Text.LetterCase.lower (Text.trimEnds Text.isBlank name)

end Style

end Exposure.Report.Markup
