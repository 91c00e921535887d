import Exposure.Report.Markup.Action
import Exposure.Report.Markup.Style
import Exposure.Text.Emoji

namespace Exposure.Report.Markup

/-- A piece of a text with markup: plain text, or a tag that begins or ends a style. -/
inductive Piece where
  | plain (text : List Char)
  | opening (name : List Char) (parameters : Option (List Char))
  | closing (name : List Char)
  deriving Repr

/-- A tag begins with a small letter, a number sign, a slash or an at sign. -/
def beginsTag (char : Char) : Bool := char.isLower || char = '#' || char = '/' || char = '@'

/-- The inside of the tag that stands behind an opening bracket. -/
def tag? (text : List Char) : Option (List Char) :=
  match text with
  | [] => none
  | first :: rest =>
    if beginsTag first then
      let inside := rest.takeWhile fun char => char ≠ '[' && char ≠ ']'
      if (rest.drop inside.length).head? = some ']' then some (first :: inside) else none
    else none

/-- The piece that a tag stands for; its parameters stand behind an equals sign. -/
def ofTag (inside : List Char) : Piece :=
  let name := inside.takeWhile (· ≠ '=')
  match name with
  | '/' :: closed => .closing (Text.trimEnds Text.isBlank closed)
  | _ => .opening name (if name.length < inside.length then some (inside.drop (name.length + 1)) else none)

/-- Some backslashes. -/
def backslashes (count : Nat) : List Char := List.replicate count '\\'

/-- The pieces of a text of which the first characters may belong to a tag already read, given the plain text and the
backslashes before the others. -/
def piecesFrom : Nat → List Char → Nat → List Char → List Piece
  | _, run, pending, [] => [.plain (run ++ backslashes pending)]
  | inside + 1, run, pending, _ :: rest => piecesFrom inside run pending rest
  | 0, run, pending, char :: rest =>
    if char = '\\' then piecesFrom 0 run (pending + 1) rest
    else if char = '[' then
      match tag? rest with
      | none => piecesFrom 0 (run ++ backslashes (pending - 1) ++ ['[']) 0 rest
      | some inside =>
        let read := if pending % 2 = 1 then Piece.plain ('[' :: inside ++ [']']) else ofTag inside
        .plain run :: .plain (backslashes (pending / 2)) :: read :: piecesFrom (inside.length + 1) [] 0 rest
    else piecesFrom 0 (run ++ backslashes pending ++ [char]) 0 rest

/-- The pieces of a text with markup; a backslash keeps a bracket from beginning a tag. -/
def pieces (text : String) : List Piece := piecesFrom 0 [] 0 text.toList

/-- A style that is open, with its parameters if it has any. -/
structure OpenStyle where
  name : List Char
  parameters : Option (List Char)
  deriving Repr

namespace OpenStyle

/-- The style is an action. -/
def isAction (style : OpenStyle) : Bool := style.name.head? = some '@'

/-- The name of a style together with its parameters. -/
def fullName (style : OpenStyle) : List Char :=
  match style.parameters with
  | some parameters => style.name ++ ' ' :: parameters
  | none => style.name

/-- The arguments of an action must be values when it ends. -/
def checkArguments (style : OpenStyle) : Except Failure Unit :=
  if style.isAction && !style.parameters.all Action.isReadable then .error .arguments else .ok ()

/-- A style is read together with its parameters when its text is shown. -/
def checkFullName (style : OpenStyle) : Except Failure Unit := do
  let _ ← if style.isAction then pure [] else Style.normalize style.fullName
  return ()

/-- Take the innermost style, or the innermost of a name, from those that are open, innermost first. -/
def take? (wanted : Option (List Char)) : List OpenStyle → Option (OpenStyle × List OpenStyle)
  | [] => none
  | style :: rest =>
    if wanted.all (style.name = ·) then some (style, rest)
    else (take? wanted rest).map fun (found, others) => (found, style :: others)

end OpenStyle

/-- Drop the markup and show the emoji, given the styles that are open, innermost first. -/
def showFrom (styles : List OpenStyle) : List Piece → Except Failure (List Char)
  | [] => do
    styles.forM OpenStyle.checkFullName
    return []
  | .plain text :: rest => do return Text.Emoji.replace text ++ (← showFrom styles rest)
  | .opening name parameters :: rest => do showFrom (⟨← Style.normalize name, parameters⟩ :: styles) rest
  | .closing name :: rest => do
    let wanted ← if name.isEmpty then pure none else some <$> Style.normalize name
    match OpenStyle.take? wanted styles with
    | none => throw .notOpen
    | some (style, others) =>
      style.checkArguments
      let text ← showFrom others rest
      style.checkFullName
      return text

/-- The controls that are never shown: bell, backspace, vertical tab, form feed and carriage return. -/
def isDropped (char : Char) : Bool := [7, 8, 11, 12, 13].contains char.toNat

/-- The text that is shown of a text with markup. -/
def shown (text : String) : Except Failure (List Char) := do
  return (← showFrom [] (pieces text)).filter (!isDropped ·)

end Exposure.Report.Markup
