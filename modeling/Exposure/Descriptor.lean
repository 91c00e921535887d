namespace Exposure

/-- How a caller may supply a parameter. -/
inductive PassingKind where
  | positionalOnly | positionalOrKeyword | keywordOnly | variadicPositional | variadicKeyword
  deriving DecidableEq, Repr

namespace PassingKind

/-- Every way to pass a parameter. -/
def all : List PassingKind := [positionalOnly, positionalOrKeyword, keywordOnly, variadicPositional, variadicKeyword]

/-- The word for a way to pass a parameter. -/
def text : PassingKind → String
  | positionalOnly => "positional_only"
  | positionalOrKeyword => "positional_or_keyword"
  | keywordOnly => "keyword_only"
  | variadicPositional => "var_positional"
  | variadicKeyword => "var_keyword"

/-- A parameter that takes any number of arguments. -/
def isVariadic : PassingKind → Bool
  | variadicPositional => true
  | variadicKeyword => true
  | _ => false

/-- A parameter that is passed by position. -/
def isPositional : PassingKind → Bool
  | positionalOnly => true
  | positionalOrKeyword => true
  | _ => false

end PassingKind

/-- The calling convention of a callable as a whole. -/
inductive CallShape where
  | noArguments | single | positional | keywords | variadic
  deriving DecidableEq, Repr

namespace CallShape

/-- Every calling convention. -/
def all : List CallShape := [noArguments, single, positional, keywords, variadic]

/-- The word for a calling convention. -/
def text : CallShape → String
  | noArguments => "noargs"
  | single => "single"
  | positional => "positional"
  | keywords => "keywords"
  | variadic => "variadic"

end CallShape

/-- The kind of a method. -/
inductive MethodKind where
  | ofInstance | ofNothing | ofClass | getter | setter | constructor | classAttribute
  deriving DecidableEq, Repr

namespace MethodKind

/-- Every kind of method. -/
def all : List MethodKind := [ofInstance, ofNothing, ofClass, getter, setter, constructor, classAttribute]

/-- The word for a kind of method. -/
def text : MethodKind → String
  | ofInstance => "instance"
  | ofNothing => "static"
  | ofClass => "class"
  | getter => "property_getter"
  | setter => "property_setter"
  | constructor => "constructor"
  | classAttribute => "class_attribute"

end MethodKind

/-- A parameter of an exposed callable. -/
structure ParameterDescriptor where
  name : String
  typeSignature : String
  passing : PassingKind
  hasDefault : Bool
  defaultText : Option String
  deriving DecidableEq, Repr

/-- An exposed callable. -/
structure CallableDescriptor where
  name : String
  parameters : List ParameterDescriptor
  returnType : String
  doc : String
  shape : CallShape
  deriving DecidableEq, Repr

/-- A field or a property that is visible on instances. -/
structure MemberDescriptor where
  name : String
  typeSignature : String
  readable : Bool
  writable : Bool
  doc : String
  deriving DecidableEq, Repr

namespace MemberDescriptor

/-- The type text of a readable member that is declared without a type. -/
def untyped : String := "_"

end MemberDescriptor

/-- An exposed structure; it has a constructor only if one is declared. -/
structure ClassDescriptor where
  exposedName : String
  module : Option String
  members : List MemberDescriptor
  constructor : Option CallableDescriptor
  doc : String
  sourceIdentity : String
  base : Option String
  flags : List String
  deriving DecidableEq, Repr

/-- A variant of an exposed enumeration and the text of its value. -/
structure VariantDescriptor where
  name : String
  value : String
  doc : String
  deriving DecidableEq, Repr

/-- An exposed enumeration. -/
structure EnumDescriptor where
  exposedName : String
  module : Option String
  variants : List VariantDescriptor
  doc : String
  sourceIdentity : String
  deriving DecidableEq, Repr

/-- A method and its kind. -/
structure MethodDescriptor where
  kind : MethodKind
  callable : CallableDescriptor
  deriving DecidableEq, Repr

/-- What a block of methods exposes; its accessors are merged into properties. -/
structure MethodsDescriptor where
  targetIdentity : String
  methods : List MethodDescriptor
  properties : List MemberDescriptor
  classAttributes : List MemberDescriptor
  deriving DecidableEq, Repr

namespace MethodsDescriptor

/-- The first constructor among the methods. -/
def constructor? (block : MethodsDescriptor) : Option CallableDescriptor :=
  (block.methods.find? fun method => method.kind = .constructor).map (·.callable)

end MethodsDescriptor

/-- An exposed function. -/
structure FunctionDescriptor where
  callable : CallableDescriptor
  module : Option String
  sourceName : String
  deriving DecidableEq, Repr

/-- What an exposed item is described by. -/
inductive Descriptor where
  | ofClass (descriptor : ClassDescriptor)
  | ofEnum (descriptor : EnumDescriptor)
  | ofMethods (descriptor : MethodsDescriptor)
  | ofFunction (descriptor : FunctionDescriptor)
  deriving DecidableEq, Repr

namespace Descriptor

/-- The word for the kind of a descriptor. -/
def kindWord : Descriptor → String
  | ofClass _ => "class"
  | ofEnum _ => "enum"
  | ofMethods _ => "methods"
  | ofFunction _ => "function"

end Descriptor

end Exposure
