import Exposure.Syntax.Chain
import Exposure.Syntax.TypeExpr

namespace Exposure

/-- What goes on a type: one more segment of a path, or one more bound of a list. -/
inductive Suffix where
  | segment (segment : PathSegment)
  | bound (bound : TypeExpr)
  deriving Repr

/-- A part of a type whose open chains have one link each, with the suffixes that belong to chains in it. -/
structure Spine (head : Type) where
  head : head
  suffixes : List Suffix

namespace TypeExpr

mutual

/-- The chains that are open at the end of a type, outermost first. -/
def openChains : TypeExpr → List ChainKind
  | path segments => .path :: openInSegments segments
  | reference _ _ target => target.openChains
  | pointer _ target => target.openChains
  | bounded _ bounds => .bounds :: openInBounds bounds
  | maybe bound => bound.openChains
  | _ => []

/-- The chains that are open at the end of the last of some bounds. -/
def openInBounds : List TypeExpr → List ChainKind
  | [] => []
  | last :: [] => last.openChains
  | _ :: rest => openInBounds rest

/-- The chains that are open at the end of the last of some segments. -/
def openInSegments : List PathSegment → List ChainKind
  | [] => []
  | last :: [] => openInSegment last
  | _ :: rest => openInSegments rest

/-- The chains that are open at the end of a path segment. -/
def openInSegment : PathSegment → List ChainKind
  | .plain .. => []
  | .call _ _ none => []
  | .call _ _ (some output) => output.openChains

end

mutual

/-- Put a suffix on the open chain of a type that has so many open chains around it. -/
def extend (suffix : Suffix) : Nat → TypeExpr → TypeExpr
  | depth, path segments => path (extendSegments suffix depth segments)
  | depth, reference life mutable target => reference life mutable (extend suffix depth target)
  | depth, pointer mutable target => pointer mutable (extend suffix depth target)
  | depth, bounded kind bounds => bounded kind (extendBounds suffix depth bounds)
  | depth, maybe bound => maybe (extend suffix depth bound)
  | _, type => type

/-- Put a suffix on a list of bounds, or on a chain inside the last of them. -/
def extendBounds (suffix : Suffix) : Nat → List TypeExpr → List TypeExpr
  | _, [] => []
  | 0, last :: [] =>
    match suffix with
    | .bound bound => [last, bound]
    | .segment _ => [last]
  | depth + 1, last :: [] => [extend suffix depth last]
  | depth, first :: rest => first :: extendBounds suffix depth rest

/-- Put a suffix on a path, or on a chain inside its last segment. -/
def extendSegments (suffix : Suffix) : Nat → List PathSegment → List PathSegment
  | _, [] => []
  | 0, last :: [] =>
    match suffix with
    | .segment segment => [last, segment]
    | .bound _ => [last]
  | depth + 1, last :: [] => [extendSegment suffix depth last]
  | depth, first :: rest => first :: extendSegments suffix depth rest

/-- Put a suffix on a chain inside the output of a call. -/
def extendSegment (suffix : Suffix) : Nat → PathSegment → PathSegment
  | depth, .call name inputs (some output) => .call name inputs (some (extend suffix depth output))
  | _, segment => segment

end

end TypeExpr

namespace Suffix

/-- The kind of chain that a suffix goes on, and the chains that it opens. -/
def stretch : Suffix → Chain.Stretch
  | segment added => ⟨some .path, TypeExpr.openInSegment added⟩
  | bound added => ⟨some .bounds, added.openChains⟩

end Suffix

namespace Spine

variable {head result : Type}

/-- A part of a type without suffixes. -/
def single (part : head) : Spine head := ⟨part, []⟩

/-- Put a part of a type into a larger part that ends with it. -/
def map (within : head → result) (spine : Spine head) : Spine result := ⟨within spine.head, spine.suffixes⟩

/-- A part of a type with further suffixes behind it. -/
def append (spine : Spine head) (suffixes : List Suffix) : Spine head := ⟨spine.head, spine.suffixes ++ suffixes⟩

/-- A suffix and those behind it. -/
def toSuffixes (suffix : head → Suffix) (spine : Spine head) : List Suffix := suffix spine.head :: spine.suffixes

/-- The chain that each suffix belongs to. -/
def owners (spine : Spine TypeExpr) : List Chain.Place :=
  Chain.owners (⟨none, spine.head.openChains⟩ :: spine.suffixes.map Suffix.stretch)

/-- The chains that a stretch opens. -/
def placesOf (index : Nat) (stretch : Chain.Stretch) : List Chain.Place :=
  (List.range stretch.opened.length).map fun level => ⟨index, level + 1⟩

/-- Put suffixes on a type, each on its chain, given the open chains and the index of the first suffix. -/
def join (type : TypeExpr) (opened : List Chain.Place) (index : Nat) : List (Suffix × Chain.Place) → TypeExpr
  | [] => type
  | (suffix, owner) :: rest =>
    let depth := opened.idxOf owner
    join (type.extend suffix depth) (opened.take (depth + 1) ++ placesOf index suffix.stretch) (index + 1) rest

/-- The type that a spine stands for. -/
def settle (spine : Spine TypeExpr) : TypeExpr :=
  join spine.head (placesOf 0 ⟨none, spine.head.openChains⟩) 1 (spine.suffixes.zip spine.owners)

/-- A type without suffixes stands for itself. -/
theorem settle_single (type : TypeExpr) : (single type).settle = type := rfl

end Spine

end Exposure
