import Exposure.Documentation
import Exposure.Signature

namespace Exposure.EnumDescriptor

/-- Report a fault in an enumeration. -/
def report {value : Type} (position : Position) (fault : EnumFault) (name : String) : Outcome value :=
  Outcome.report (.point position) (.enumeration fault name)

/-- The value of a variant: its explicit discriminant, or else the one expected. -/
def valueOf (expected : Option Int) (variant : Variant) : Option Int :=
  match variant.discriminant with
  | some trees => DefaultValue.integer? trees
  | none => expected

/-- The text of a value; an unknown value is a placeholder. -/
def valueText : Option Int → Outcome String
  | none => .ok Signature.placeholder
  | some value => Numeral.decimal value

/-- Describe variants in order, given those before them and the value that the next one would have. -/
def ofVariants (renameAll : Option RenameRule) (described : List VariantDescriptor) (expected : Option Int) :
    List Variant → Outcome (List VariantDescriptor)
  | [] => .ok described
  | variant :: rest =>
    match variant.payload with
    | .absent => do
      let options ← Options.ofAttributes .ofVariant "pyo3" variant.attributes []
      let name := options.nameOr (RenameRule.rename renameAll variant.name)
      if described.any fun other => other.name = name then report variant.position .duplicateVariant name
      else
        let value := valueOf expected variant
        let text ← valueText value
        let doc ← Documentation.ofAttributes variant.attributes
        ofVariants renameAll (described ++ [⟨name, text, doc⟩]) (value.map (· + 1)) rest
    | _ => report variant.position .payloadVariant variant.name

/-- Describe an enumeration, which needs a variant and may have none that carries anything. -/
def ofEnum (item : EnumItem) (options : Options) : Outcome EnumDescriptor := do
  if item.variants.isEmpty then report item.header.position .emptyEnum item.name
  else
    let variants ← ofVariants options.renameAll [] (some 0) item.variants
    let doc ← Documentation.ofAttributes item.header.attributes
    return ⟨options.nameOr item.name, options.module, variants, doc, item.name⟩

end Exposure.EnumDescriptor
