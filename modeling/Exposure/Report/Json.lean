import Exposure.Text.Blank
import Exposure.Text.Quoted

namespace Exposure.Report

/-- A value of the data format of the report; numbers do not occur in it. -/
inductive Json where
  | null
  | truth (value : Bool)
  | text (value : String)
  | list (items : List Json)
  | object (fields : List (String × Json))
  deriving Repr

namespace Json

/-- The escape of a code unit of sixteen bits. -/
def unitEscape (unit : Nat) : List Char := '\\' :: 'u' :: Text.hexDigits 4 unit

/-- How a character stands in a string; beyond ASCII by its code units. -/
def escapeChar (char : Char) : List Char :=
  if char = '"' then ['\\', '"']
  else if char = '\\' then ['\\', '\\']
  else if char = '\n' then ['\\', 'n']
  else if char = '\r' then ['\\', 'r']
  else if char = '\t' then ['\\', 't']
  else if char.toNat = 8 then ['\\', 'b']
  else if char.toNat = 12 then ['\\', 'f']
  else if 0x20 ≤ char.toNat && char.toNat < 0x7F then [char]
  else if char.toNat < 0x10000 then unitEscape char.toNat
  else
    let beyond := char.toNat - 0x10000
    unitEscape (0xD800 + beyond / 0x400) ++ unitEscape (0xDC00 + beyond % 0x400)

/-- The string of a text. -/
def quote (text : String) : String := String.ofList ('"' :: text.toList.flatMap escapeChar ++ ['"'])

/-- The line break before an element at a depth. -/
def lineBreak (depth : Nat) : String := "\n" ++ String.ofList (List.replicate (2 * depth) ' ')

/-- Put written elements on lines of their own between two brackets, if there are any. -/
def enclose (depth : Nat) (opening closing : String) (elements : List String) : String :=
  if elements.isEmpty then opening ++ closing
  else
    let next := lineBreak (depth + 1)
    opening ++ next ++ ("," ++ next).intercalate elements ++ lineBreak depth ++ closing

mutual

/-- Write a value at a depth. -/
def render (depth : Nat) : Json → String
  | null => "null"
  | truth value => if value then "true" else "false"
  | text value => quote value
  | list items => enclose depth "[" "]" (renderItems (depth + 1) items)
  | object fields => enclose depth "\x7b" "\x7d" (renderFields (depth + 1) fields)

/-- Write the elements of a list. -/
def renderItems (depth : Nat) : List Json → List String
  | [] => []
  | first :: rest => render depth first :: renderItems depth rest

/-- Write the fields of an object. -/
def renderFields (depth : Nat) : List (String × Json) → List String
  | [] => []
  | (name, value) :: rest => (quote name ++ ": " ++ render depth value) :: renderFields depth rest

end

end Json

end Exposure.Report
