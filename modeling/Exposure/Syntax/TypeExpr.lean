import Exposure.Text.Blank

namespace Exposure

/-- The word before a list of bounds. -/
inductive BoundedKind where
  | impl | dyn
  deriving DecidableEq, Repr

namespace BoundedKind

/-- The spelling of the word. -/
def text : BoundedKind → String
  | impl => "impl"
  | dyn => "dyn"

end BoundedKind

mutual

/-- A type, or one of the things that may stand in the place of a type argument or a bound. -/
inductive TypeExpr where
  | path (segments : List PathSegment)
  | reference (life : Option String) (mutable : Bool) (target : TypeExpr)
  | pointer (mutable : Bool) (target : TypeExpr)
  | tuple (elements : List TypeExpr)
  | slice (element : TypeExpr)
  | array (element : TypeExpr) (length : String)
  | bounded (kind : BoundedKind) (bounds : List TypeExpr)
  | never
  | lifetime (name : String)
  | binding (name : String) (value : TypeExpr)
  | const (text : String)
  | maybe (bound : TypeExpr)
  | grouped (bound : TypeExpr)
  deriving Repr

/-- A path segment has type arguments, or the inputs and the output of a call. -/
inductive PathSegment where
  | plain (name : String) (arguments : List TypeExpr)
  | call (name : String) (inputs : List TypeExpr) (output : Option TypeExpr)
  deriving Repr

end

namespace PathSegment

/-- The identifier of a segment. -/
def name : PathSegment → String
  | plain name _ => name
  | call name _ _ => name

/-- The type arguments of a segment; a call has none. -/
def arguments : PathSegment → List TypeExpr
  | plain _ arguments => arguments
  | call _ _ _ => []

end PathSegment

namespace TypeExpr

/-- The path of one segment without arguments. -/
def named (name : String) : TypeExpr := path [.plain name []]

/-- A lifetime in the place of a type argument or a bound. -/
def isLifetime : TypeExpr → Bool
  | lifetime _ => true
  | _ => false

/-- The last segment of a path. -/
def lastSegment? : TypeExpr → Option PathSegment
  | path segments => segments.getLast?
  | _ => none

mutual

/-- Write a type; the parentheses around a bound are not written. -/
def render : TypeExpr → String
  | path segments => "::".intercalate (renderSegments segments)
  | reference life mutable target =>
    "&" ++ (match life with | some name => name ++ " " | none => "") ++ (if mutable then "mut " else "") ++
      target.render
  | pointer mutable target => (if mutable then "*mut " else "*const ") ++ target.render
  | tuple elements =>
    "(" ++ ", ".intercalate (renderAll elements) ++ (match elements with | [_] => "," | _ => "") ++ ")"
  | slice element => "[" ++ element.render ++ "]"
  | array element length => "[" ++ element.render ++ "; " ++ length ++ "]"
  | bounded kind bounds => kind.text ++ " " ++ " + ".intercalate (renderAll bounds)
  | never => "!"
  | lifetime name => name
  | binding name value => name ++ " = " ++ value.render
  | const text => text
  | maybe bound => "?" ++ bound.render
  | grouped bound => bound.render

/-- Write every type of a list. -/
def renderAll : List TypeExpr → List String
  | [] => []
  | first :: rest => first.render :: renderAll rest

/-- Write a path segment. -/
def renderSegment : PathSegment → String
  | .plain name [] => name
  | .plain name arguments => name ++ "<" ++ ", ".intercalate (renderAll arguments) ++ ">"
  | .call name inputs output => name ++ "(" ++ ", ".intercalate (renderAll inputs) ++ ")" ++ renderOutput output

/-- Write the output of a call with its arrow. -/
def renderOutput : Option TypeExpr → String
  | none => ""
  | some output => " -> " ++ output.render

/-- Write every segment of a path. -/
def renderSegments : List PathSegment → List String
  | [] => []
  | first :: rest => renderSegment first :: renderSegments rest

end

/-- Writing a list of types writes each of them. -/
theorem renderAll_eq_map (types : List TypeExpr) : renderAll types = types.map render := by
  induction types with
  | nil => rfl
  | cons first rest step => rw [renderAll, step, List.map_cons]

end TypeExpr

end Exposure
