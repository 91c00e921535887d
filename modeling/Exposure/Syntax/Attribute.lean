import Exposure.Syntax.TokenTree

namespace Exposure

/-- What follows the path of an attribute. -/
inductive AttributeInput where
  | absent
  | arguments (trees : List TokenTree)
  | value (tree : TokenTree)
  deriving Repr

/-- An outer attribute; a documentation comment is the attribute of that name. -/
structure Attribute where
  path : List String
  input : AttributeInput
  position : Position
  deriving Repr

namespace Attribute

/-- The last segment of the path names an attribute. -/
def name (attr : Attribute) : String := attr.path.getLast?.getD ""

/-- The argument list of an attribute. -/
def arguments? (attr : Attribute) : Option (List TokenTree) :=
  match attr.input with
  | .arguments trees => some trees
  | _ => none

/-- The arguments of an attribute that has any. -/
def arguments (attr : Attribute) : List TokenTree := attr.arguments?.getD []

/-- The value of an attribute. -/
def value? (attr : Attribute) : Option TokenTree :=
  match attr.input with
  | .value tree => some tree
  | _ => none

/-- The text behind the slashes of a documentation comment, without one leading blank. -/
def docText (comment : String) : String :=
  match comment.toList.drop 3 with
  | ' ' :: rest => String.ofList rest
  | rest => String.ofList rest

/-- The attribute that a documentation comment stands for. -/
def ofDocComment (comment : Token) : Attribute :=
  ⟨["doc"], .value (.leaf ⟨.doc, docText comment.text, comment.start⟩), comment.start⟩

/-- The attributes of a given name. -/
def withName (name : String) (attributes : List Attribute) : List Attribute :=
  attributes.filter fun attr => attr.name = name

end Attribute

end Exposure
