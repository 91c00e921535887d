import Exposure.Documentation
import Exposure.Signature

namespace Exposure.MemberDescriptor

/-- Report a fault in a field. -/
def report {value : Type} (field : Field) (fault : MemberFault) (name : String) : Outcome value :=
  Outcome.report field.place (.member fault name)

/-- Describe a field, unless neither its own options nor those of its class make it visible. -/
def ofField? (options : Options) (owner : String) (field : Field) : Outcome (Option MemberDescriptor) := do
  let own ← Options.ofAttributes .ofField "pyo3" field.attributes []
  let readable := own.has .get || options.has .getAll
  let writable := own.has .set || options.has .setAll
  if !readable && !writable then return none
  if writable && options.has .frozen then report field .frozenSetter field.name
  else
    let signature ← match field.type with
      | some type => pure (type.signature (some owner))
      | none => if readable then pure untyped else report field .missingType field.name
    let doc ← Documentation.ofAttributes field.attributes
    return some ⟨own.nameOr (RenameRule.rename options.renameAll field.name), signature, readable, writable, doc⟩

/-- Describe one more field; two visible fields may not share a name. -/
def addField (options : Options) (owner : String) (members : List MemberDescriptor) (field : Field) :
    Outcome (List MemberDescriptor) := do
  match ← ofField? options owner field with
  | none => return members
  | some member =>
    if members.any fun other => other.name = member.name then report field .duplicateName member.name
    else return members ++ [member]

/-- Describe every visible field, in declaration order. -/
def ofFields (options : Options) (owner : String) (fields : List Field) : Outcome (List MemberDescriptor) :=
  fields.foldlM (addField options owner) []

end Exposure.MemberDescriptor
