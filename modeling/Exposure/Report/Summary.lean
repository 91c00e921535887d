import Exposure.Descriptor
import Exposure.Report.Markup
import Exposure.Report.Table

namespace Exposure.Report

/-- The summary of a descriptor: a title, and a table whose cells may hold markup. -/
structure Summary where
  title : String
  columns : List Column
  rows : List (List String)
  deriving DecidableEq, Repr

namespace Summary

/-- The width of the summaries. -/
def width : Nat := 200

/-- The title of an item and its module, if it has one. -/
def titleOf (heading : String) (module : Option String) : String :=
  "[bold cyan]" ++ heading ++ "[/bold cyan]" ++
    match module with
    | none => ""
    | some name => if name.isEmpty then "" else " [dim](" ++ name ++ ")[/dim]"

/-- The text of a parameter and its default. -/
def parameterText (parameter : ParameterDescriptor) : String :=
  parameter.name ++ ": " ++ parameter.typeSignature ++
    if parameter.hasDefault then " = " ++ parameter.defaultText.getD "None" else ""

/-- The text of a callable. -/
def callableText (callable : CallableDescriptor) : String :=
  callable.name ++ "(" ++ ", ".intercalate (callable.parameters.map parameterText) ++ ") -> " ++ callable.returnType

/-- The text of a property or a class attribute. -/
def memberText (member : MemberDescriptor) : String := member.name ++ ": " ++ member.typeSignature

/-- What may be done with a member. -/
def accessText (member : MemberDescriptor) : String :=
  if member.writable then if member.readable then "rw" else "w" else "r"

/-- The summary of a class. -/
def ofClass (item : ClassDescriptor) : Summary :=
  ⟨titleOf ("class " ++ item.exposedName) item.module,
    [⟨"Member", .left⟩, ⟨"Type", .left⟩, ⟨"Access", .left⟩],
    (item.members.map fun member => [member.name, member.typeSignature, accessText member]) ++
      (item.constructor.map fun callable => [callableText callable, "", "constructor"]).toList⟩

/-- The summary of an enumeration. -/
def ofEnum (item : EnumDescriptor) : Summary :=
  ⟨titleOf ("enum " ++ item.exposedName) item.module, [⟨"Variant", .left⟩, ⟨"Value", .right⟩],
    item.variants.map fun variant => [variant.name, variant.value]⟩

/-- The summary of a block of methods. -/
def ofMethods (block : MethodsDescriptor) : Summary :=
  ⟨titleOf ("methods of " ++ block.targetIdentity) none, [⟨"Signature", .left⟩, ⟨"Kind", .left⟩],
    (block.methods.map fun method => [callableText method.callable, method.kind.text]) ++
      (block.properties.map fun property =>
        [memberText property, if property.writable then "property (rw)" else "property"]) ++
      block.classAttributes.map fun member => [memberText member, "class_attribute"]⟩

/-- The summary of a function. -/
def ofFunction (item : FunctionDescriptor) : Summary :=
  ⟨titleOf "function" item.module, [⟨"Signature", .left⟩, ⟨"Shape", .left⟩],
    [[callableText item.callable, item.callable.shape.text]]⟩

/-- The summary of a descriptor. -/
def ofDescriptor : Descriptor → Summary
  | .ofClass item => ofClass item
  | .ofEnum item => ofEnum item
  | .ofMethods block => ofMethods block
  | .ofFunction item => ofFunction item

/-- The lines of a title. -/
def titleLines (title : List Char) : List (List Char) :=
  ((Table.cellLines title).flatMap (Text.Wrap.lines width .fold)).map (Text.Wrap.truncate width .fold)

/-- The text of a summary, which ends with an empty line, unless its markup cannot be shown. -/
def text (summary : Summary) : Except Markup.Failure String := do
  let title ← Markup.shown summary.title
  let rows ← summary.rows.mapM fun row => row.mapM Markup.shown
  let lines := titleLines title ++ Table.format width ⟨summary.columns, rows⟩ ++ [[]]
  return String.ofList (lines.flatMap (· ++ ['\n']))

end Summary

end Exposure.Report
