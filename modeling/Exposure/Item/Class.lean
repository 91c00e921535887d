import Exposure.Item.Callable
import Exposure.Item.Member

namespace Exposure.ClassDescriptor

/-- A switch that describes the class itself, and not the visibility of a field or a function. -/
def isClassFlag : Flag → Bool
  | .getAll => false
  | .setAll => false
  | .get => false
  | .set => false
  | .passModule => false
  | .skip => false
  | _ => true

/-- Describe a structure, given the functions that belong to its type. -/
def ofStruct (item : StructItem) (options : Options) (associated : List FunctionItem) : Outcome ClassDescriptor := do
  let members ← MemberDescriptor.ofFields options item.name item.fields
  let constructor ← CallableDescriptor.ofConstructor? item.name associated
  let doc ← Documentation.ofAttributes item.header.attributes
  return ⟨options.nameOr item.name, options.module, members, constructor, doc, item.name, options.base,
    (options.flags.filter isClassFlag).map Flag.text⟩

end Exposure.ClassDescriptor
