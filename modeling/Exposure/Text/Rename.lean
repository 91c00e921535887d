import Exposure.Text.Blank
import Exposure.Text.LetterCase

namespace Exposure

/-- A way to write the words of a name. -/
inductive RenameRule where
  | camel | kebab | lower | pascal | screamingKebab | screamingSnake | snake | upper
  deriving DecidableEq, Repr

namespace RenameRule

/-- Every rule. -/
def all : List RenameRule := [camel, kebab, lower, pascal, screamingKebab, screamingSnake, snake, upper]

/-- The name of a rule, which follows the rule. -/
def text : RenameRule → String
  | camel => "camelCase"
  | kebab => "kebab-case"
  | lower => "lowercase"
  | pascal => "PascalCase"
  | screamingKebab => "SCREAMING-KEBAB-CASE"
  | screamingSnake => "SCREAMING_SNAKE_CASE"
  | snake => "snake_case"
  | upper => "UPPERCASE"

/-- The rule of a given name. -/
def ofText? (text : String) : Option RenameRule := all.find? fun rule => rule.text = text

/-- The characters between the words of a name. -/
def isSeparator (char : Char) : Bool := char = '_' || char = '-'

/-- A word ends behind a small letter or a digit before a capital. -/
def isBoundary (before behind : Char) : Bool := (before.isLower || before.isDigit) && behind.isUpper

/-- Write an underscore at every boundary between a small letter or a digit and a capital. -/
def markBoundaries : List Char → List Char
  | first :: second :: rest =>
    if isBoundary first second then first :: '_' :: markBoundaries (second :: rest)
    else first :: markBoundaries (second :: rest)
  | rest => rest

/-- The words of a name in lower case. -/
def words (name : List Char) : List (List Char) :=
  (((markBoundaries name).splitOnP isSeparator).filter (!·.isEmpty)).map Text.LetterCase.lower

/-- Write the words of a name by a rule; a name without words stays as it is in camel case. -/
def applyTo (rule : RenameRule) (name : List Char) : List Char :=
  let parts := words name
  match rule with
  | camel =>
    match parts with
    | [] => name
    | first :: rest => first ++ (rest.map Text.LetterCase.capitalize).flatten
  | pascal => (parts.map Text.LetterCase.capitalize).flatten
  | snake => ['_'].intercalate parts
  | screamingSnake => Text.LetterCase.upper (['_'].intercalate parts)
  | kebab => ['-'].intercalate parts
  | screamingKebab => Text.LetterCase.upper (['-'].intercalate parts)
  | lower => parts.flatten
  | upper => Text.LetterCase.upper parts.flatten

/-- Rename by a rule, if there is one. -/
def rename (rule : Option RenameRule) (name : String) : String :=
  match rule with
  | none => name
  | some given => String.ofList (given.applyTo name.toList)

end RenameRule

end Exposure
