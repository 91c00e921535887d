import Exposure.Descriptor
import Exposure.Fragment.Layout
import Exposure.Text.Literal
import Exposure.Text.Rename

namespace Exposure.Fragment

/-- The path of the runtime that fragments register with, unless another is asked for. -/
def defaultRuntime : String := "::stubmeta"

/-- The path of the variant of an enumeration of the runtime. -/
def variantPath (runtime enumeration value : String) : String :=
  runtime ++ "::" ++ enumeration ++ "::" ++ RenameRule.rename (some .pascal) value

/-- The expression for the output type of a type; an untyped place and the empty tuple have their own. -/
def typeOutput (runtime signature : String) : String :=
  if signature = MemberDescriptor.untyped then runtime ++ "::TypeInfo::any"
  else if signature = "()" then runtime ++ "::TypeInfo::none"
  else "<" ++ signature ++ " as " ++ runtime ++ "::PyStubType>::type_output"

/-- The expression for the identity of a type. -/
def typeIdentity (identity : String) : String := "::std::any::TypeId::of::<" ++ identity ++ ">"

/-- The line that gives a field its value. -/
def assign (name value : String) : Layout := .line (name ++ ": " ++ value ++ ",")

/-- The literal of a truth value. -/
def truth (value : Bool) : String := if value then "true" else "false"

/-- A record of the runtime as an element of a list. -/
def record (runtime name : String) (fields : List Layout) : Layout :=
  .block (runtime ++ "::" ++ name ++ " \x7b") fields "\x7d,"

/-- The field that holds a list. -/
def listField (name : String) (elements : List Layout) : Layout := .block (name ++ ": &[") elements "],"

/-- The record of a parameter. -/
def ofParameter (runtime : String) (parameter : ParameterDescriptor) : Layout :=
  record runtime "ParameterInfo"
    [assign "name" (Literal.encode parameter.name),
      assign "kind" (variantPath runtime "ParameterKind" parameter.passing.text),
      assign "r#type" (typeOutput runtime parameter.typeSignature),
      assign "default" (Literal.encodeOption (if parameter.hasDefault then parameter.defaultText else none))]

/-- The fields that every callable has. -/
def callableFields (runtime : String) (callable : CallableDescriptor) : List Layout :=
  [assign "name" (Literal.encode callable.name),
    listField "parameters" (callable.parameters.map (ofParameter runtime)),
    assign "r#return" (typeOutput runtime callable.returnType),
    assign "shape" (variantPath runtime "CallShape" callable.shape.text),
    assign "doc" (Literal.encode callable.doc)]

/-- The fields of a method of a kind. -/
def methodFields (runtime : String) (kind : MethodKind) (callable : CallableDescriptor) : List Layout :=
  callableFields runtime callable ++ [assign "kind" (variantPath runtime "MethodKind" kind.text)]

/-- The record of a method. -/
def ofMethod (runtime : String) (method : MethodDescriptor) : Layout :=
  record runtime "MethodInfo" (methodFields runtime method.kind method.callable)

/-- The record of a member. -/
def ofMember (runtime : String) (member : MemberDescriptor) : Layout :=
  record runtime "MemberInfo"
    [assign "name" (Literal.encode member.name), assign "r#type" (typeOutput runtime member.typeSignature),
      assign "readable" (truth member.readable), assign "writable" (truth member.writable),
      assign "doc" (Literal.encode member.doc)]

/-- The field that holds the constructor of a class. -/
def constructorField (runtime : String) : Option CallableDescriptor → Layout
  | none => assign "constructor" "None"
  | some callable =>
    .block ("constructor: Some(" ++ runtime ++ "::MethodInfo \x7b") (methodFields runtime .constructor callable)
      "\x7d),"

/-- The line of a variant. -/
def ofVariant (variant : VariantDescriptor) : Layout :=
  .line ("(" ++ ", ".intercalate [Literal.encode variant.name, Literal.encode variant.value,
    Literal.encode variant.doc] ++ "),")

/-- The fields that begin the record of a type: its identity, its name, its module and its documentation. -/
def typeFields (key identity name : String) (module : Option String) (doc : String) : List Layout :=
  [assign key (typeIdentity identity), assign "pyclass_name" (Literal.encode name),
    assign "module" (Literal.encodeOption module), assign "doc" (Literal.encode doc)]

/-- The name of the record of a descriptor. -/
def recordName : Descriptor → String
  | .ofClass _ => "PyClassInfo"
  | .ofEnum _ => "PyEnumInfo"
  | .ofMethods _ => "PyMethodsInfo"
  | .ofFunction _ => "PyFunctionInfo"

/-- The fields of the record of a descriptor. -/
def fields (runtime : String) : Descriptor → List Layout
  | .ofClass item =>
    typeFields "struct_id" item.sourceIdentity item.exposedName item.module item.doc ++
      [assign "base" (Literal.encodeOption item.base),
        listField "members" (item.members.map (ofMember runtime)), constructorField runtime item.constructor,
        assign "flags" ("&[" ++ ", ".intercalate (item.flags.map Literal.encode) ++ "]")]
  | .ofEnum item =>
    typeFields "enum_id" item.sourceIdentity item.exposedName item.module item.doc ++
      [listField "variants" (item.variants.map ofVariant)]
  | .ofMethods block =>
    [assign "struct_id" (typeIdentity block.targetIdentity),
      listField "methods" (block.methods.map (ofMethod runtime)),
      listField "properties" (block.properties.map (ofMember runtime)),
      listField "class_attributes" (block.classAttributes.map (ofMember runtime))]
  | .ofFunction item =>
    callableFields runtime item.callable ++ [assign "module" (Literal.encodeOption item.module)]

/-- The block that registers a descriptor with the runtime. -/
def layout (runtime : String) (descriptor : Descriptor) : Layout :=
  .block (runtime ++ "::inventory::submit! \x7b")
    [.block (runtime ++ "::" ++ recordName descriptor ++ " \x7b") (fields runtime descriptor) "\x7d"] "\x7d"

/-- The code that registers a descriptor with the runtime. -/
def ofDescriptor (runtime : String) (descriptor : Descriptor) : String := (layout runtime descriptor).text

/-- Drop the line feeds at the end of a text. -/
def dropLineEnds (text : String) : String :=
  String.ofList (Text.dropTail (· = '\n') text.toList)

/-- The text of an item with the code that registers its descriptor, after an empty line. -/
def appendTo (source runtime : String) (descriptor : Descriptor) : String :=
  dropLineEnds source ++ "\n\n" ++ ofDescriptor runtime descriptor

end Exposure.Fragment
