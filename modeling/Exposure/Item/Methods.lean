import Exposure.Item.Callable
import Exposure.Item.Member

namespace Exposure

namespace MethodKind

/-- The markers of methods and the kinds that they stand for. -/
def markers : List (String × MethodKind) :=
  [("new", constructor), ("getter", getter), ("setter", setter), ("classattr", classAttribute),
    ("classmethod", ofClass), ("staticmethod", ofNothing)]

/-- The kind of a method, which its marker or else its receiver decides; it may have one kind of marker only. -/
def ofFunction (function : FunctionItem) : Outcome MethodKind :=
  match markers.filter fun (name, _) => !(Attribute.withName name function.header.attributes).isEmpty with
  | [] => .ok (if CallableDescriptor.hasReceiver function then ofInstance else ofNothing)
  | [(_, kind)] => .ok kind
  | _ => Outcome.report (.point function.header.position) (.method .conflictingMarkers function.name)

end MethodKind

/-- One half of a property. -/
structure Accessor where
  name : String
  typeSignature : String
  doc : String
  function : FunctionItem

namespace Accessor

/-- The name of the property that an accessor belongs to. -/
def propertyName (function : FunctionItem) (marker beginning : String) (options : Options) : Outcome String := do
  let given ← match Attribute.withName marker function.header.attributes with
    | [] => pure none
    | first :: _ => Options.markerArgument first
  match given with
  | some name =>
    if name.isEmpty then return options.nameOr (shortened function.name) else return name
  | none => return options.nameOr (shortened function.name)
where
  shortened (name : String) : String :=
    if beginning.toList.isPrefixOf name.toList then String.ofList (name.toList.drop beginning.length) else name

/-- The type of the value that a setter takes. -/
def valueType? (function : FunctionItem) : Option TypeExpr :=
  match Signature.visible (CallableDescriptor.ownParameters function .setter) with
  | first :: _ => first.type
  | [] => none

/-- The accessor that a getter is. -/
def ofGetter (owner : String) (function : FunctionItem) : Outcome Accessor := do
  let options ← CallableDescriptor.optionsOf function
  let name ← propertyName function "getter" "get_" options
  let doc ← Documentation.ofAttributes function.header.attributes
  return ⟨name, CallableDescriptor.returnSignature (some owner) function, doc, function⟩

/-- The accessor that a setter is. -/
def ofSetter (owner : String) (function : FunctionItem) : Outcome Accessor := do
  let options ← CallableDescriptor.optionsOf function
  let name ← propertyName function "setter" "set_" options
  let doc ← Documentation.ofAttributes function.header.attributes
  return ⟨name, ((valueType? function).map (TypeExpr.signature (some owner))).getD MemberDescriptor.untyped, doc,
    function⟩

/-- A setter takes what the getter returns, or an optional one for deletion. -/
def settable (owner : String) (getter setter : Accessor) : Bool :=
  getter.typeSignature = setter.typeSignature ||
    (((valueType? setter.function).bind TypeExpr.optionInner?).any fun inner =>
      inner.signature (some owner) = getter.typeSignature)

end Accessor

/-- What the functions of a block read so far amount to. -/
structure MethodsProgress where
  claimed : List String
  methods : List MethodDescriptor
  classAttributes : List MemberDescriptor
  getters : List Accessor
  setters : List Accessor
  properties : List String

namespace MethodsProgress

/-- Nothing has been read. -/
def start : MethodsProgress := ⟨[], [], [], [], [], []⟩

/-- Report a fault in a method. -/
def report {value : Type} (function : FunctionItem) (fault : MethodFault) (name : String) : Outcome value :=
  Outcome.report (.point function.header.position) (.method fault name)

/-- Take a name that no other method, property or class attribute has taken. -/
def claim (progress : MethodsProgress) (name : String) (function : FunctionItem) : Outcome MethodsProgress :=
  if progress.claimed.contains name then report function .duplicateName name
  else .ok { progress with claimed := name :: progress.claimed }

/-- Note that a property has an accessor. -/
def noteProperty (progress : MethodsProgress) (name : String) : MethodsProgress :=
  if progress.properties.contains name then progress
  else { progress with properties := progress.properties ++ [name] }

/-- The accessor of a given name. -/
def find? (accessors : List Accessor) (name : String) : Option Accessor :=
  accessors.find? fun accessor => accessor.name = name

/-- Read a function of a known kind. -/
def readKind (owner : String) (progress : MethodsProgress) (function : FunctionItem) (kind : MethodKind) :
    Outcome MethodsProgress := do
  match kind with
  | .getter =>
    let getter ← Accessor.ofGetter owner function
    if (find? progress.getters getter.name).isSome then report function .duplicateName getter.name
    else return { progress with getters := progress.getters ++ [getter] }.noteProperty getter.name
  | .setter =>
    let setter ← Accessor.ofSetter owner function
    if (find? progress.setters setter.name).isSome then report function .duplicateName setter.name
    else return { progress with setters := progress.setters ++ [setter] }.noteProperty setter.name
  | .classAttribute =>
    let options ← CallableDescriptor.optionsOf function
    let name := options.nameOr function.name
    let claimed ← progress.claim name function
    let doc ← Documentation.ofAttributes function.header.attributes
    let member : MemberDescriptor :=
      ⟨name, CallableDescriptor.returnSignature (some owner) function, true, false, doc⟩
    return { claimed with classAttributes := claimed.classAttributes ++ [member] }
  | other =>
    let callable ← CallableDescriptor.ofMethod owner other function
    let claimed ← progress.claim callable.name function
    return { claimed with methods := claimed.methods ++ [⟨other, callable⟩] }

/-- Read one more function, unless its stub options skip it. -/
def read (owner : String) (progress : MethodsProgress) (function : FunctionItem) : Outcome MethodsProgress := do
  let stub ← Options.ofAttributes .ofStubMethod "gen_stub" function.header.attributes []
  if stub.has .skip then return progress
  else readKind owner progress function (← MethodKind.ofFunction function)

/-- Merge the accessors of one property; a setter needs a getter of the same type. -/
def addProperty (owner : String) (state : MethodsProgress × List MemberDescriptor) (name : String) :
    Outcome (MethodsProgress × List MemberDescriptor) := do
  let (progress, members) := state
  match find? progress.getters name, find? progress.setters name with
  | none, none => return state
  | none, some setter => report setter.function .setterWithoutGetter name
  | some getter, none =>
    let claimed ← progress.claim name getter.function
    return (claimed, members ++ [⟨name, getter.typeSignature, true, false, getter.doc⟩])
  | some getter, some setter =>
    if Accessor.settable owner getter setter then
      let claimed ← progress.claim name getter.function
      return (claimed, members ++ [⟨name, getter.typeSignature, true, true, getter.doc⟩])
    else
      Outcome.report (.point setter.function.header.position)
        (.accessorMismatch name getter.typeSignature setter.typeSignature)

end MethodsProgress

namespace ImplItem

/-- The name of the type that a block of functions is for. -/
def targetName (block : ImplItem) : String :=
  match block.selfType.lastSegment? with
  | some segment => segment.name
  | none => block.selfType.signature none

end ImplItem

namespace MethodsDescriptor

/-- Describe every exposed function of a block that implements no trait. -/
def ofImpl (block : ImplItem) : Outcome MethodsDescriptor := do
  match block.trait with
  | some trait => Outcome.report (.point block.header.position) (.traitBlock trait.render)
  | none =>
    let owner := block.targetName
    let progress ← block.functions.foldlM (MethodsProgress.read owner) .start
    let (_, properties) ← progress.properties.foldlM (MethodsProgress.addProperty owner) (progress, [])
    return ⟨owner, progress.methods, properties, progress.classAttributes⟩

end MethodsDescriptor

end Exposure
