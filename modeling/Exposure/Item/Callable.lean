import Exposure.Documentation
import Exposure.Signature

namespace Exposure.CallableDescriptor

/-- The name under which a constructor is exposed. -/
def constructorName : String := "__new__"

/-- The parameter stands for the object that a method is called on. -/
def isReceiver (parameter : Parameter) : Bool :=
  parameter.isReceiver || (parameter.type.bind TypeExpr.receiverTarget?).any fun target => target.render = "Self"

/-- The first parameter of a function stands for the object that it is called on. -/
def hasReceiver (function : FunctionItem) : Bool := function.parameters.head?.any isReceiver

/-- A method of a kind that may have a receiver. -/
def takesReceiver : MethodKind → Bool
  | .ofInstance => true
  | .getter => true
  | .setter => true
  | _ => false

/-- Drop the first parameter that callers would pass. -/
def dropFirstVisible : List Parameter → List Parameter
  | [] => []
  | first :: rest => if (Signature.visible [first]).isEmpty then first :: dropFirstVisible rest else rest

/-- The parameters of a method without its receiver, or without the class that it is called on. -/
def ownParameters (function : FunctionItem) (kind : MethodKind) : List Parameter :=
  if takesReceiver kind && hasReceiver function then function.parameters.tail
  else if kind = .ofClass then dropFirstVisible function.parameters
  else function.parameters

/-- The options that a function has beside its tag. -/
def optionsOf (function : FunctionItem) : Outcome Options :=
  Options.ofAttributes .ofFunction "pyo3" function.header.attributes []

/-- The text of what a function returns on success. -/
def returnSignature (owner : Option String) (function : FunctionItem) : String :=
  TypeExpr.signatureOf owner (function.returnType.map TypeExpr.unwrapResult)

/-- Describe a method of a kind under given options. -/
def ofMethodWith (options : Options) (owner : String) (kind : MethodKind) (function : FunctionItem) :
    Outcome CallableDescriptor := do
  let signature ← Signature.analyze (ownParameters function kind) options (some owner)
  let doc ← Documentation.ofAttributes function.header.attributes
  if kind = .constructor then return ⟨constructorName, signature.parameters, owner, doc, signature.shape⟩
  else
    return ⟨options.nameOr function.name, signature.parameters, returnSignature (some owner) function, doc,
      signature.shape⟩

/-- Describe a method of a kind. -/
def ofMethod (owner : String) (kind : MethodKind) (function : FunctionItem) : Outcome CallableDescriptor := do
  ofMethodWith (← optionsOf function) owner kind function

/-- Describe the constructor among the functions of a type; there may be one at most. -/
def ofConstructor? (owner : String) (functions : List FunctionItem) : Outcome (Option CallableDescriptor) :=
  match functions.filter fun function => !(Attribute.withName "new" function.header.attributes).isEmpty with
  | [] => .ok none
  | [only] => some <$> ofMethod owner .constructor only
  | _ :: second :: _ =>
    Outcome.report (.point second.header.position) (.method .duplicateName constructorName)

end Exposure.CallableDescriptor
