import Exposure.Item.Callable

namespace Exposure.FunctionDescriptor

/-- A key may not be written both in the tag of a function and beside it. -/
def reportRepeated {value : Type} (item : FunctionItem) (key : OptionKey) : Outcome value :=
  Outcome.report (.point item.header.position) (.repeatedOption key.text)

/-- Describe a function from its declaration, perhaps with a signature from its tag. -/
def ofDeclaration (item : FunctionItem) (signature : Option (List SignatureEntry)) : Outcome FunctionDescriptor := do
  let own ← CallableDescriptor.optionsOf item
  if signature.isSome && own.signature.isSome then reportRepeated item .signature
  else
    let options := { own with signature := signature.or own.signature }
    let parameters :=
      if options.has .passModule then CallableDescriptor.dropFirstVisible item.parameters else item.parameters
    let analysed ← Signature.analyze parameters options none
    let doc ← Documentation.ofAttributes item.header.attributes
    return ⟨⟨options.nameOr item.name, analysed.parameters, CallableDescriptor.returnSignature none item, doc,
      analysed.shape⟩, none, item.name⟩

/-- Give a function the name and the module of its tag. -/
def override (options : Options) (descriptor : FunctionDescriptor) : FunctionDescriptor :=
  { descriptor with
    callable := { descriptor.callable with name := options.name.getD descriptor.callable.name }
    module := options.module.or descriptor.module }

/-- Describe a function under the options of its tag. -/
def ofFunction (item : FunctionItem) (options : Options) : Outcome FunctionDescriptor := do
  let own ← CallableDescriptor.optionsOf item
  if options.name.isSome && own.name.isSome then reportRepeated item .name
  else
    let base ← ofDeclaration item options.signature
    return base.override options

end Exposure.FunctionDescriptor
