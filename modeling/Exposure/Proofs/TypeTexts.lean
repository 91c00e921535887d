import Exposure.Proofs.Makings
import Exposure.Proofs.Wording

/-!
The type texts of descriptors: where the types of the described items are writable, every type text is loose.
-/

namespace Exposure

/-- The type texts of a descriptor, among them the name of the type that it is about. -/
def Descriptor.typeTexts : Descriptor → List String
  | ofClass item => item.sourceIdentity ::
      (item.members.map (·.typeSignature) ++ item.constructor.toList.flatMap CallableDescriptor.typeTexts)
  | ofEnum item => [item.sourceIdentity]
  | ofMethods block => block.targetIdentity ::
      (block.methods.flatMap (·.callable.typeTexts) ++ (block.properties ++ block.classAttributes).map (·.typeSignature))
  | ofFunction item => item.callable.typeTexts

/-- Every type of a function is writable. -/
def FunctionItem.IsWritable (function : FunctionItem) : Prop := ∀ type ∈ function.types, type.IsWritable

/-- A signed text is loose where the types are writable. -/
theorem IsSigned.isLoose {owner : Option String} (ofOwner : ∀ name ∈ owner, IsLoose name) {types : List TypeExpr}
    (writable : ∀ type ∈ types, type.IsWritable) {text : String} (signed : IsSigned owner types text) : IsLoose text := by
  cases signed with
  | owner isOwner => exact ofOwner text isOwner
  | nothing => exact IsLoose.within .paren (IsLoose.ofPlain rfl : IsLoose "").isValue
  | untyped => exact .ofPlain rfl
  | type member => exact TypeExpr.signature_isLoose (writable _ member) ofOwner
  | result member => exact TypeExpr.signature_isLoose (TypeExpr.unwrapResult_isWritable (writable _ member)) ofOwner

theorem ImplItem.isLoose_targetName {block : ImplItem} (writable : block.selfType.IsWritable) :
    IsLoose block.targetName := by
  unfold targetName
  split
  · rename_i segment found
    unfold TypeExpr.lastSegment? at found
    split at found
    · rename_i segments same
      have proper : PathSegment.AllProper segments := by
        have proper := writable.proper
        rwa [same] at proper
      have ofSegment := (TypeExpr.segment_of_path (List.mem_of_getLast? found) proper).1
      cases segment with
      | plain name arguments => exact .ofName ofSegment.1
      | call name inputs output => exact .ofName ofSegment.1
    · cases found
  · exact TypeExpr.signature_isLoose writable nofun

namespace Expansion

/-- Every type text of the descriptor of an item is loose, where the types and the name of the item are writable. -/
theorem typeTexts_of_describe {associated : List FunctionItem} {item : Item} {descriptor : Descriptor}
    (run : describe? associated item = .ok (some descriptor)) (proper : item.IsProper)
    (writable : ∀ type ∈ item.types, type.IsWritable) (ofAssociated : ∀ function ∈ associated, function.IsWritable) :
    ∀ text ∈ descriptor.typeTexts, IsLoose text := by
  have describes := describes_of_describe run
  have ofOwner : ∀ name ∈ descriptor.owner?, IsLoose name := by
    rintro name isOwner
    cases describes with
    | @ofStruct declared options class_ described =>
      obtain ⟨identity, -⟩ := ClassDescriptor.ofStruct_eq_ok described
      cases isOwner
      exact identity ▸ .ofName proper.1
    | @ofEnum declared options enum described =>
      obtain ⟨identity, -⟩ := EnumDescriptor.ofEnum_eq_ok described
      cases isOwner
      exact identity ▸ .ofName proper
    | @ofImpl _ block methods isBlock tagged described =>
      obtain ⟨identity, -⟩ := MethodsDescriptor.ofImpl_accounts described
      cases isOwner
      rw [identity]
      refine ImplItem.isLoose_targetName (writable _ ?_)
      cases item <;> cases isBlock
      exact List.mem_cons_self
    | ofFunction => cases isOwner
  have ofSignatures : ∀ text ∈ descriptor.signatures, IsLoose text := fun text inside =>
    (describes.isSigned text inside).isLoose ofOwner (List.forall_mem_append.mpr ⟨writable, fun type member =>
      have ⟨function, listed, inside⟩ := List.mem_flatMap.mp member
      ofAssociated function listed type inside⟩)
  cases descriptor with
  | ofFunction item => exact ofSignatures
  | ofEnum item => exact List.forall_mem_singleton.mpr (ofOwner _ rfl)
  | ofClass item => exact List.forall_mem_cons.mpr ⟨ofOwner _ rfl, ofSignatures⟩
  | ofMethods block => exact List.forall_mem_cons.mpr ⟨ofOwner _ rfl, ofSignatures⟩

end Expansion

end Exposure
