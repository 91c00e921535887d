import Exposure.Descriptor
import Exposure.Report.Json

namespace Exposure.Report.Json

/-- A text that may be missing. -/
def ofOption : Option String → Json
  | none => null
  | some value => text value

/-- The object of a parameter. -/
def ofParameter (parameter : ParameterDescriptor) : Json :=
  object [("name", text parameter.name), ("type_signature", text parameter.typeSignature),
    ("passing_kind", text parameter.passing.text), ("has_default", truth parameter.hasDefault),
    ("default_repr", ofOption parameter.defaultText)]

/-- The object of a callable. -/
def ofCallable (callable : CallableDescriptor) : Json :=
  object [("name", text callable.name), ("parameters", list (callable.parameters.map ofParameter)),
    ("return_type", text callable.returnType), ("doc", text callable.doc), ("shape", text callable.shape.text)]

/-- The object of a member. -/
def ofMember (member : MemberDescriptor) : Json :=
  object [("name", text member.name), ("type_signature", text member.typeSignature),
    ("readable", truth member.readable), ("writable", truth member.writable), ("doc", text member.doc)]

/-- The object of a class. -/
def ofClass (item : ClassDescriptor) : Json :=
  object [("exposed_name", text item.exposedName), ("module", ofOption item.module),
    ("members", list (item.members.map ofMember)),
    ("constructor", (item.constructor.map ofCallable).getD null), ("doc", text item.doc),
    ("source_identity", text item.sourceIdentity), ("base", ofOption item.base),
    ("flags", list (item.flags.map text))]

/-- The object of a variant. -/
def ofVariant (variant : VariantDescriptor) : Json :=
  object [("name", text variant.name), ("value", text variant.value), ("doc", text variant.doc)]

/-- The object of an enumeration. -/
def ofEnum (item : EnumDescriptor) : Json :=
  object [("exposed_name", text item.exposedName), ("module", ofOption item.module),
    ("variants", list (item.variants.map ofVariant)), ("doc", text item.doc),
    ("source_identity", text item.sourceIdentity)]

/-- The object of a method. -/
def ofMethod (method : MethodDescriptor) : Json :=
  object [("kind", text method.kind.text), ("callable", ofCallable method.callable)]

/-- The object of a block of methods. -/
def ofMethods (block : MethodsDescriptor) : Json :=
  object [("target_identity", text block.targetIdentity), ("methods", list (block.methods.map ofMethod)),
    ("properties", list (block.properties.map ofMember)),
    ("class_attributes", list (block.classAttributes.map ofMember))]

/-- The object of a function. -/
def ofFunction (item : FunctionDescriptor) : Json :=
  object [("callable", ofCallable item.callable), ("module", ofOption item.module),
    ("source_name", text item.sourceName)]

/-- The object of a descriptor without its kind. -/
def ofContent : Descriptor → Json
  | .ofClass item => ofClass item
  | .ofEnum item => ofEnum item
  | .ofMethods block => ofMethods block
  | .ofFunction item => ofFunction item

/-- The object of a descriptor and its kind. -/
def ofDescriptor (descriptor : Descriptor) : Json :=
  object [("kind", text descriptor.kindWord), ("descriptor", ofContent descriptor)]

end Exposure.Report.Json
