import Exposure.Proofs.Accounting
import Exposure.Proofs.Overriding

/-!
# What descriptors are made of

Every part of a descriptor is made of one part of the described item: a parameter of a declared parameter, a member of a
field, a variant of a declared variant, and every type text is the signature of a declared type, or of what a declared
result type stands for, under the owner of the descriptor.
-/

namespace Exposure

/-- The types that a function declares. -/
def FunctionItem.types (function : FunctionItem) : List TypeExpr :=
  function.parameters.filterMap (·.type) ++ function.returnType.toList

/-- The types that the description of an item is made of. -/
def Item.types : Item → List TypeExpr
  | structItem item => item.fields.filterMap (·.type)
  | enumItem _ => []
  | functionItem item => item.types
  | implItem _ selfType _ items => selfType :: (items.filterMap function?).flatMap FunctionItem.types
  | moduleItem .. => []

/-- The type texts of a callable. -/
def CallableDescriptor.typeTexts (callable : CallableDescriptor) : List String :=
  callable.returnType :: callable.parameters.map (·.typeSignature)

namespace Descriptor

/-- The owner that the type texts of a descriptor are written for. -/
def owner? : Descriptor → Option String
  | ofClass item => some item.sourceIdentity
  | ofEnum item => some item.sourceIdentity
  | ofMethods block => some block.targetIdentity
  | ofFunction _ => none

/-- The signatures of a descriptor. -/
def signatures : Descriptor → List String
  | ofClass item =>
    item.members.map (·.typeSignature) ++ item.constructor.toList.flatMap CallableDescriptor.typeTexts
  | ofEnum _ => []
  | ofMethods block =>
    block.methods.flatMap (·.callable.typeTexts) ++ (block.properties ++ block.classAttributes).map (·.typeSignature)
  | ofFunction item => item.callable.typeTexts

end Descriptor

/-- A text is the signature of one of a list of types under an owner, or of what one of them stands for as a result, or of
no type at all; or it is the owner itself. -/
inductive IsSigned (owner : Option String) (types : List TypeExpr) : String → Prop
  | owner {name : String} (isOwner : owner = some name) : IsSigned owner types name
  | nothing : IsSigned owner types (TypeExpr.signatureOf owner none)
  | untyped : IsSigned owner types MemberDescriptor.untyped
  | type {type : TypeExpr} (member : type ∈ types) : IsSigned owner types (type.signature owner)
  | result {type : TypeExpr} (member : type ∈ types) : IsSigned owner types (type.unwrapResult.signature owner)

namespace IsSigned

variable {owner : Option String} {types : List TypeExpr}

theorem mono {more : List TypeExpr} (subset : types ⊆ more) {text : String} (signed : IsSigned owner types text) :
    IsSigned owner more text := by
  cases signed with
  | owner isOwner => exact .owner isOwner
  | nothing => exact .nothing
  | untyped => exact .untyped
  | type member => exact .type (subset member)
  | result member => exact .result (subset member)

theorem signatureOf {type : Option TypeExpr} (member : ∀ given, type = some given → given ∈ types) :
    IsSigned owner types (TypeExpr.signatureOf owner type) := by
  cases type with
  | none => exact .nothing
  | some given => exact .type (member given rfl)

/-- What a function returns is signed. -/
theorem returnSignature (function : FunctionItem) :
    IsSigned owner function.types (CallableDescriptor.returnSignature owner function) := by
  unfold CallableDescriptor.returnSignature
  cases returned : function.returnType with
  | none => exact .nothing
  | some type => exact .result (List.mem_append_right _ (by rw [returned]; exact List.mem_singleton_self type))

end IsSigned

/-! Parameters and callables -/

namespace Signature

variable {owner : Option String}

/-- A described parameter has the name and the type of a declared one. -/
def Describes (owner : Option String) (declared : Parameter) (parameter : ParameterDescriptor) : Prop :=
  parameter.name = declared.name ∧ parameter.typeSignature = TypeExpr.signatureOf owner declared.type

/-- What parameters are described as describes parameters. -/
theorem Yields.describes {parameters : List Parameter} {options : Options} {described : List ParameterDescriptor}
    (yields : Yields parameters options owner described) :
    ∀ parameter ∈ described, ∃ declared ∈ parameters, Describes owner declared parameter := by
  cases yields with
  | implicit absent =>
    intro parameter member
    obtain ⟨index, inside, rfl⟩ := List.mem_mapIdx.mp member
    exact ⟨_, List.getElem_mem inside, rfl, rfl⟩
  | explicit given run =>
    obtain ⟨last, read, -, -, rfl⟩ := explicitParameters_eq_ok_iff.mp run
    intro descriptor member
    obtain ⟨entry, -, answers⟩ := Outcome.exists_of_forall₂ (Progress.Traces.run read).answers member
    cases answers with
    | intro listed _ _ => exact ⟨_, listed, rfl, rfl⟩

/-- Every parameter of a signature describes a declared one. -/
theorem describes_of_analyze {parameters : List Parameter} {options : Options} {signature : Signature}
    (run : analyze parameters options owner = .ok signature) :
    ∀ parameter ∈ signature.parameters, ∃ declared ∈ parameters, Describes owner declared parameter := by
  obtain ⟨recorded, described, -, -, yields, -, rfl⟩ := analyze_eq_ok_iff.mp run
  intro parameter member
  obtain ⟨declared, listed, describes⟩ := yields.describes parameter member
  exact ⟨declared, List.mem_of_mem_filter listed, describes⟩

end Signature

namespace CallableDescriptor

/-- The type texts of a callable are signed if what it returns is and its parameters describe those of a function. -/
theorem typeTexts_isSigned {owner : Option String} {function : FunctionItem} {callable : CallableDescriptor}
    (ofReturn : IsSigned owner function.types callable.returnType)
    (ofParameters : ∀ parameter ∈ callable.parameters,
      ∃ declared ∈ function.parameters, Signature.Describes owner declared parameter) :
    ∀ text ∈ callable.typeTexts, IsSigned owner function.types text := by
  refine List.forall_mem_cons.mpr ⟨ofReturn, List.forall_mem_map.mpr fun parameter member => ?_⟩
  obtain ⟨declared, listed, -, same⟩ := ofParameters parameter member
  rw [same]
  exact .signatureOf fun type isType =>
    List.mem_append_left _ (List.mem_filterMap.mpr ⟨declared, listed, isType⟩)

/-- What the description of a method is made of. -/
theorem ofMethod_eq_ok {owner : String} {kind : MethodKind} {function : FunctionItem} {callable : CallableDescriptor}
    (run : ofMethod owner kind function = .ok callable) :
    ∃ options, optionsOf function = .ok options ∧
      callable.name = (if kind = .constructor then constructorName else options.nameOr function.name) ∧
      callable.returnType = (if kind = .constructor then owner else returnSignature (some owner) function) ∧
      ∀ parameter ∈ callable.parameters,
        ∃ declared ∈ function.parameters, Signature.Describes (some owner) declared parameter := by
  simp only [ofMethod, ofMethodWith, Outcome.bind_eq_ok] at run
  obtain ⟨options, ofOptions, signature, analysed, doc, -, run⟩ := run
  have ofParameters : ∀ parameter ∈ signature.parameters,
      ∃ declared ∈ function.parameters, Signature.Describes (some owner) declared parameter := fun parameter member =>
    (Signature.describes_of_analyze analysed parameter member).imp fun _ found =>
      ⟨ownParameters_subset function kind found.1, found.2⟩
  split at run
  case isTrue isConstructor =>
    rw [← Outcome.pure_eq_ok.mp run]
    exact ⟨options, ofOptions, (if_pos isConstructor).symm, (if_pos isConstructor).symm, ofParameters⟩
  case isFalse other =>
    rw [← Outcome.pure_eq_ok.mp run]
    exact ⟨options, ofOptions, (if_neg other).symm, (if_neg other).symm, ofParameters⟩

theorem isSigned_of_ofMethod {owner : String} {kind : MethodKind} {function : FunctionItem}
    {callable : CallableDescriptor} (run : ofMethod owner kind function = .ok callable) :
    ∀ text ∈ callable.typeTexts, IsSigned (some owner) function.types text := by
  obtain ⟨options, -, -, returns, ofParameters⟩ := ofMethod_eq_ok run
  refine typeTexts_isSigned ?_ ofParameters
  rw [returns]
  split
  · exact .owner rfl
  · exact .returnSignature function

/-- A constructor is described as one of the functions of its type. -/
theorem ofConstructor?_eq_some {owner : String} {functions : List FunctionItem} {callable : CallableDescriptor}
    (run : ofConstructor? owner functions = .ok (some callable)) :
    ∃ function ∈ functions, ofMethod owner .constructor function = .ok callable := by
  simp only [ofConstructor?] at run
  split at run
  · simp at run
  · rename_i only alone
    simp only [Outcome.map_eq_ok, Option.some.injEq] at run
    obtain ⟨found, described, rfl⟩ := run
    exact ⟨only, List.mem_of_mem_filter (alone ▸ List.mem_singleton_self only), described⟩
  · simp at run

end CallableDescriptor

/-! Members -/

namespace MemberDescriptor

/-- What the description of a visible field is made of. -/
theorem ofField?_eq_some {options : Options} {owner : String} {field : Field} {member : MemberDescriptor}
    (run : ofField? options owner field = .ok (some member)) :
    ∃ own, Options.ofAttributes .ofField "pyo3" field.attributes [] = .ok own ∧
      ((own.has .get || options.has .getAll) || (own.has .set || options.has .setAll)) = true ∧
      member.name = own.nameOr (RenameRule.rename options.renameAll field.name) ∧
      member.typeSignature = (field.type.map (TypeExpr.signature (some owner))).getD untyped := by
  simp only [ofField?, Outcome.bind_eq_ok] at run
  obtain ⟨own, ofOwn, run⟩ := run
  split at run
  case isTrue => simp at run
  case isFalse shown =>
    have visible : ((own.has .get || options.has .getAll) || (own.has .set || options.has .setAll)) = true := by
      simpa [Bool.or_eq_true, or_iff_not_imp_left] using shown
    refine ⟨own, ofOwn, visible, ?_⟩
    split at run
    · simp [report] at run
    · split at run
      · rename_i type isType
        simp only [Outcome.bind_eq_ok, Outcome.pure_eq_ok, Option.some.injEq] at run
        obtain ⟨signature, rfl, doc, -, rfl⟩ := run
        exact ⟨rfl, by rw [isType]; rfl⟩
      · rename_i isType
        split at run
        · simp only [Outcome.bind_eq_ok, Outcome.pure_eq_ok, Option.some.injEq] at run
          obtain ⟨signature, rfl, doc, -, rfl⟩ := run
          exact ⟨rfl, by rw [isType]; rfl⟩
        · simp [report] at run

/-- A field is left out exactly when it is not visible. -/
theorem ofField?_eq_none {options own : Options} {owner : String} {field : Field}
    (ofOwn : Options.ofAttributes .ofField "pyo3" field.attributes [] = .ok own)
    (run : ofField? options owner field = .ok none) :
    ((own.has .get || options.has .getAll) || (own.has .set || options.has .setAll)) = false := by
  simp only [ofField?, Outcome.bind_eq_ok] at run
  obtain ⟨other, ofOther, run⟩ := run
  obtain rfl := Except.ok.inj (ofOther.symm.trans ofOwn)
  split at run
  case isTrue hidden => simpa [Bool.or_eq_false_iff] using hidden
  case isFalse =>
    split at run
    · simp [report] at run
    · split at run
      · simp at run
      · split at run
        · simp at run
        · simp [report] at run

/-- The members of a class describe its visible fields, in order. -/
theorem ofFields_eq_ok {options : Options} {owner : String} {fields : List Field} {members : List MemberDescriptor}
    (run : ofFields options owner fields = .ok members) :
    ∃ found, List.Forall₂ (fun field maybe => ofField? options owner field = .ok maybe) fields found ∧
      found.filterMap id = members := by
  refine Outcome.foldlM_history (fun past members =>
    ∃ found, List.Forall₂ (fun field maybe => ofField? options owner field = .ok maybe) past found ∧
      found.filterMap id = members) ?_ ⟨[], .nil, rfl⟩ run
  rintro past _ field - after ⟨found, each, rfl⟩ step
  simp only [addField, Outcome.bind_eq_ok] at step
  obtain ⟨maybe, described, step⟩ := step
  refine ⟨found ++ [maybe], List.rel_append each (.cons described .nil), ?_⟩
  rw [List.filterMap_append]
  cases maybe with
  | none => simpa using step
  | some member =>
    simp only at step
    split at step
    · simp [report] at step
    · simpa using step

/-- The types of members are signed. -/
theorem isSigned_of_ofFields {options : Options} {owner : String} {fields : List Field} {members : List MemberDescriptor}
    (run : ofFields options owner fields = .ok members) :
    ∀ member ∈ members, IsSigned (some owner) (fields.filterMap (·.type)) member.typeSignature := by
  obtain ⟨found, each, rfl⟩ := ofFields_eq_ok run
  intro member listed
  obtain ⟨maybe, inside, rfl⟩ := List.mem_filterMap.mp listed
  obtain ⟨field, given, described⟩ := Outcome.exists_of_forall₂ each inside
  obtain ⟨own, -, -, -, same⟩ := ofField?_eq_some described
  rw [same]
  cases isType : field.type with
  | none => exact .untyped
  | some type => exact .type (List.mem_filterMap.mpr ⟨field, given, isType⟩)

end MemberDescriptor

/-! Items -/

/-- What the description of a structure is made of. -/
theorem ClassDescriptor.ofStruct_eq_ok {item : StructItem} {options : Options} {associated : List FunctionItem}
    {descriptor : ClassDescriptor} (run : ofStruct item options associated = .ok descriptor) :
    descriptor.sourceIdentity = item.name ∧ descriptor.exposedName = options.nameOr item.name ∧
      MemberDescriptor.ofFields options item.name item.fields = .ok descriptor.members ∧
      CallableDescriptor.ofConstructor? item.name associated = .ok descriptor.constructor := by
  simp only [ofStruct, Outcome.bind_eq_ok, Outcome.pure_eq_ok] at run
  obtain ⟨members, ofMembers, constructor, constructed, doc, -, rfl⟩ := run
  exact ⟨rfl, rfl, ofMembers, constructed⟩

namespace EnumDescriptor

/-- A described variant has its own name, or else the renamed name of a declared one. -/
def Describes (renameAll : Option RenameRule) (variant : Variant) (described : VariantDescriptor) : Prop :=
  ∃ options, Options.ofAttributes .ofVariant "pyo3" variant.attributes [] = .ok options ∧
    described.name = options.nameOr (RenameRule.rename renameAll variant.name)

variable {renameAll : Option RenameRule} {described result : List VariantDescriptor} {expected : Option Int}

/-- A variant is described with its value and a name that no variant before it has, and the others follow. -/
theorem ofVariants_cons_eq_ok {variant : Variant} {rest : List Variant}
    (run : ofVariants renameAll described expected (variant :: rest) = .ok result) :
    ∃ one, Describes renameAll variant one ∧ one.name ∉ described.map (·.name) ∧
      valueText (valueOf expected variant) = .ok one.value ∧
      ofVariants renameAll (described ++ [one]) ((valueOf expected variant).map (· + 1)) rest = .ok result := by
  rw [ofVariants] at run
  split at run
  case h_1 =>
    simp only [Outcome.bind_eq_ok] at run
    obtain ⟨options, ofOptions, run⟩ := run
    split at run
    case isTrue => simp [report] at run
    case isFalse free =>
      simp only [Outcome.bind_eq_ok] at run
      obtain ⟨text, ofValue, doc, -, run⟩ := run
      exact ⟨_, ⟨options, ofOptions, rfl⟩, by simpa using free, ofValue, run⟩
  case h_2 => simp [report] at run

theorem ofVariants_eq_ok {variants : List Variant} (run : ofVariants renameAll described expected variants = .ok result) :
    ∃ added, List.Forall₂ (Describes renameAll) variants added ∧ described ++ added = result := by
  induction variants generalizing described expected with
  | nil => exact ⟨[], .nil, by rw [List.append_nil]; exact Except.ok.inj run⟩
  | cons variant rest step =>
    obtain ⟨one, describes, -, -, run⟩ := ofVariants_cons_eq_ok run
    obtain ⟨added, each, rfl⟩ := step run
    exact ⟨one :: added, .cons describes each, by rw [List.append_assoc]; rfl⟩

variable {item : EnumItem} {options : Options} {descriptor : EnumDescriptor}

/-- The variants of an enumeration are described from zero on. -/
theorem ofVariants_of_ofEnum (run : ofEnum item options = .ok descriptor) :
    descriptor.sourceIdentity = item.name ∧ descriptor.exposedName = options.nameOr item.name ∧
      ofVariants options.renameAll [] (some 0) item.variants = .ok descriptor.variants := by
  simp only [ofEnum] at run
  split at run
  · simp [report] at run
  · simp only [Outcome.bind_eq_ok, Outcome.pure_eq_ok] at run
    obtain ⟨variants, ofVariants, doc, -, rfl⟩ := run
    exact ⟨rfl, rfl, ofVariants⟩

/-- What the description of an enumeration is made of. -/
theorem ofEnum_eq_ok (run : ofEnum item options = .ok descriptor) :
    descriptor.sourceIdentity = item.name ∧ descriptor.exposedName = options.nameOr item.name ∧
      List.Forall₂ (Describes options.renameAll) item.variants descriptor.variants := by
  obtain ⟨identity, exposed, ofVariants⟩ := ofVariants_of_ofEnum run
  obtain ⟨added, each, same⟩ := ofVariants_eq_ok ofVariants
  exact ⟨identity, exposed, same ▸ each⟩

end EnumDescriptor

/-- What the description of a function is made of. -/
theorem FunctionDescriptor.ofFunction_eq_ok {item : FunctionItem} {options : Options} {descriptor : FunctionDescriptor}
    (run : ofFunction item options = .ok descriptor) :
    ∃ own, CallableDescriptor.optionsOf item = .ok own ∧
      descriptor.callable.name = options.name.getD (own.nameOr item.name) ∧
      descriptor.callable.returnType = CallableDescriptor.returnSignature none item ∧
      ∀ parameter ∈ descriptor.callable.parameters,
        ∃ declared ∈ item.parameters, Signature.Describes none declared parameter := by
  obtain ⟨own, ofOwn, -, -, signature, analysed, doc, -, rfl⟩ := ofFunction_eq_ok_iff.mp run
  refine ⟨own, ofOwn, rfl, rfl, fun parameter member => ?_⟩
  obtain ⟨declared, listed, describes⟩ := Signature.describes_of_analyze analysed parameter member
  refine ⟨declared, ?_, describes⟩
  split at listed
  · exact CallableDescriptor.dropFirstVisible_subset _ listed
  · exact listed

namespace MethodsDescriptor

/-- What the description of a property is made of: a getter among the functions of the block. -/
theorem Accounts.exists_getter {functions : List FunctionItem} {block : MethodsDescriptor}
    (accounts : block.Accounts functions) {property : MemberDescriptor} (member : property ∈ block.properties) :
    ∃ function ∈ functions, function.kind? = some .getter ∧ ∃ getter,
      Accessor.ofGetter block.targetIdentity function = .ok getter ∧ property.name = getter.name ∧
      property.typeSignature = getter.typeSignature := by
  obtain ⟨accessors, halves, merges⟩ := accounts.properties
  obtain ⟨getter, inside, isGetter, rfl⟩ := merges.entries property member
  obtain ⟨function, listed, -, found⟩ := halves.exists_of_mem inside
  rw [Accessor.ofFunction] at found
  split at found
  case isTrue known => exact ⟨function, listed, known, getter, found, rfl, rfl⟩
  case isFalse other =>
    rw [Accessor.isGetter, Accessor.ofSetter_function found] at isGetter
    exact absurd (of_decide_eq_true isGetter) other

/-- The type texts of a block are signed. -/
theorem Accounts.isSigned {functions : List FunctionItem} {block : MethodsDescriptor}
    (accounts : block.Accounts functions) : ∀ text ∈ (Descriptor.ofMethods block).signatures,
      IsSigned (some block.targetIdentity) (functions.flatMap FunctionItem.types) text := by
  have within {function : FunctionItem} (listed : function ∈ functions) :
      function.types ⊆ functions.flatMap FunctionItem.types := fun _ member => List.mem_flatMap.mpr ⟨_, listed, member⟩
  refine List.forall_mem_append.mpr ⟨?_, List.forall_mem_map.mpr (List.forall_mem_append.mpr ⟨?_, ?_⟩)⟩
  · intro text inside
    obtain ⟨method, member, inside⟩ := List.mem_flatMap.mp inside
    obtain ⟨function, listed, -, -, described⟩ := accounts.methods.exists_of_mem member
    exact (CallableDescriptor.isSigned_of_ofMethod described text inside).mono (within listed)
  · intro property member
    obtain ⟨function, listed, -, getter, found, -, same⟩ := accounts.exists_getter member
    simp only [Accessor.ofGetter, Outcome.bind_eq_ok, Outcome.pure_eq_ok] at found
    obtain ⟨options, -, name, -, doc, -, rfl⟩ := found
    rw [same]
    exact (IsSigned.returnSignature function).mono (within listed)
  · intro constant member
    obtain ⟨function, listed, -, options, doc, -, -, rfl⟩ := accounts.classAttributes.exists_of_mem member
    exact (IsSigned.returnSignature function).mono (within listed)

end MethodsDescriptor

/-- The functions of a block declare some of its types. -/
theorem Item.types_subset {item : Item} {block : ImplItem} (isBlock : item.impl? = some block) :
    block.functions.flatMap FunctionItem.types ⊆ item.types := by
  cases item with
  | implItem header selfType trait items =>
    cases isBlock
    exact List.subset_cons_self _ _
  | _ => cases isBlock

/-- Every type text of a descriptor is signed by the types of its item and of the functions associated with it. -/
theorem Expansion.Describes.isSigned {associated : List FunctionItem} {item : Item} {descriptor : Descriptor}
    (describes : Describes associated item descriptor) : ∀ text ∈ descriptor.signatures,
      IsSigned descriptor.owner? (item.types ++ associated.flatMap FunctionItem.types) text := by
  cases describes with
  | @ofStruct declared options descriptor described =>
    obtain ⟨identity, -, ofMembers, constructed⟩ := ClassDescriptor.ofStruct_eq_ok described
    rw [Descriptor.owner?, identity]
    refine List.forall_mem_append.mpr ⟨List.forall_mem_map.mpr fun member listed => ?_, fun text inside => ?_⟩
    · exact (MemberDescriptor.isSigned_of_ofFields ofMembers member listed).mono (List.subset_append_left _ _)
    · obtain ⟨callable, isConstructor, inside⟩ := List.mem_flatMap.mp inside
      rw [Option.mem_toList.mp isConstructor] at constructed
      obtain ⟨function, listed, described⟩ := CallableDescriptor.ofConstructor?_eq_some constructed
      exact (CallableDescriptor.isSigned_of_ofMethod described text inside).mono fun type member =>
        List.mem_append_right _ (List.mem_flatMap.mpr ⟨function, listed, member⟩)
  | ofEnum described => exact List.forall_mem_nil _
  | ofImpl isBlock tagged described =>
    obtain ⟨-, accounts⟩ := MethodsDescriptor.ofImpl_accounts described
    exact fun text inside => (accounts.isSigned text inside).mono
      (List.Subset.trans (Item.types_subset isBlock) (List.subset_append_left _ _))
  | @ofFunction item function options descriptor isFunction described =>
    obtain ⟨own, -, -, returns, ofParameters⟩ := FunctionDescriptor.ofFunction_eq_ok described
    have same : item.types = function.types := by
      cases item <;> cases isFunction
      rfl
    refine fun text inside => IsSigned.mono (List.subset_append_left _ _) ?_
    rw [same]
    exact CallableDescriptor.typeTexts_isSigned (returns ▸ .returnSignature function) ofParameters text inside

end Exposure
