import Exposure.Syntax.TypeExpr

namespace Exposure.TypeExpr

mutual

/-- Drop every lifetime from a type. -/
def stripLifetimes : TypeExpr → TypeExpr
  | path segments => path (stripSegments segments)
  | reference _ mutable target => reference none mutable target.stripLifetimes
  | pointer mutable target => pointer mutable target.stripLifetimes
  | tuple elements => tuple (stripAll elements)
  | slice element => slice element.stripLifetimes
  | array element length => array element.stripLifetimes length
  | bounded kind bounds => bounded kind (stripAll bounds)
  | never => never
  | lifetime name => lifetime name
  | binding name value => binding name value.stripLifetimes
  | const text => const text
  | maybe bound => maybe bound.stripLifetimes
  | grouped bound => grouped bound.stripLifetimes

/-- Drop the lifetimes of a list, and those inside its other members. -/
def stripAll : List TypeExpr → List TypeExpr
  | [] => []
  | first :: rest => if first.isLifetime then stripAll rest else first.stripLifetimes :: stripAll rest

/-- Drop every lifetime from a path segment. -/
def stripSegment : PathSegment → PathSegment
  | .plain name arguments => .plain name (stripAll arguments)
  | .call name inputs output => .call name (stripAll inputs) (stripOutput output)

/-- Drop every lifetime from the output of a call. -/
def stripOutput : Option TypeExpr → Option TypeExpr
  | none => none
  | some output => some output.stripLifetimes

/-- Drop every lifetime from the segments of a path. -/
def stripSegments : List PathSegment → List PathSegment
  | [] => []
  | first :: rest => stripSegment first :: stripSegments rest

end

/-- A path is the bare name of the surrounding type. -/
def isSelf : List PathSegment → Bool
  | [segment] => segment.name = "Self" && segment.arguments.isEmpty
  | _ => false

mutual

/-- Put a name in the place of every bare name of the surrounding type. -/
def replaceSelf (owner : String) : TypeExpr → TypeExpr
  | path segments => if isSelf segments then named owner else path (replaceSegments owner segments)
  | reference life mutable target => reference life mutable (target.replaceSelf owner)
  | pointer mutable target => pointer mutable (target.replaceSelf owner)
  | tuple elements => tuple (replaceAll owner elements)
  | slice element => slice (element.replaceSelf owner)
  | array element length => array (element.replaceSelf owner) length
  | bounded kind bounds => bounded kind (replaceAll owner bounds)
  | never => never
  | lifetime name => lifetime name
  | binding name value => binding name (value.replaceSelf owner)
  | const text => const text
  | maybe bound => maybe (bound.replaceSelf owner)
  | grouped bound => grouped (bound.replaceSelf owner)

/-- Replace in every type of a list. -/
def replaceAll (owner : String) : List TypeExpr → List TypeExpr
  | [] => []
  | first :: rest => first.replaceSelf owner :: replaceAll owner rest

/-- Replace inside a path segment. -/
def replaceSegment (owner : String) : PathSegment → PathSegment
  | .plain name arguments => .plain name (replaceAll owner arguments)
  | .call name inputs output => .call name (replaceAll owner inputs) (replaceOutput owner output)

/-- Replace inside the output of a call. -/
def replaceOutput (owner : String) : Option TypeExpr → Option TypeExpr
  | none => none
  | some output => some (output.replaceSelf owner)

/-- Replace inside the segments of a path. -/
def replaceSegments (owner : String) : List PathSegment → List PathSegment
  | [] => []
  | first :: rest => replaceSegment owner first :: replaceSegments owner rest

end

/-- A type is a path whose last segment has one of the given names. -/
def isPathTo (names : List String) (type : TypeExpr) : Bool :=
  type.lastSegment?.any fun segment => names.contains segment.name

/-- The interpreter token, which no caller passes. -/
def isInterpreterToken (type : TypeExpr) : Bool := type.isPathTo ["Python"]

/-- The arguments of the last segment of a path. -/
def lastArguments (type : TypeExpr) : List TypeExpr := (type.lastSegment?.map (·.arguments)).getD []

/-- The one argument of an optional type. -/
def optionInner? (type : TypeExpr) : Option TypeExpr :=
  if type.isPathTo ["Option"] then
    match type.lastArguments with
    | [inner] => some inner
    | _ => none
  else none

/-- A result type stands for the first of its arguments that is no lifetime. -/
def unwrapResult (type : TypeExpr) : TypeExpr :=
  if type.isPathTo ["PyResult", "Result"] then
    ((type.lastArguments.filter (!·.isLifetime)).head?).getD type
  else type

/-- The object that a handle to the surrounding type, or a reference to such a handle, refers to. -/
def receiverTarget? : TypeExpr → Option TypeExpr
  | reference _ _ target => target.receiverTarget?
  | type =>
    if type.isPathTo ["PyRef", "PyRefMut", "Py", "Bound", "Borrowed"] then
      match type.lastArguments.filter (!·.isLifetime) with
      | [inner] => some inner
      | _ => none
    else none

/-- The text of a type in a descriptor, without lifetimes and, where an owner is known, with its name. -/
def signature (owner : Option String) (type : TypeExpr) : String :=
  let stripped := type.stripLifetimes
  match owner with
  | some name => if name.isEmpty then stripped.render else (stripped.replaceSelf name).render
  | none => stripped.render

/-- The text of a type that may be missing; a missing type is the empty tuple. -/
def signatureOf (owner : Option String) (type : Option TypeExpr) : String :=
  (type.map (signature owner)).getD "()"

end Exposure.TypeExpr
