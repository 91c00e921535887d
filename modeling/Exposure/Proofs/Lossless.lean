import Exposure.Fragment
import Exposure.Proofs.Indentation
import Exposure.Proofs.Literals
import Exposure.Proofs.TypeTexts

/-!
The code that registers a descriptor loses nothing of it but the name that a function has in the source: two descriptors
with the same code are the same otherwise.
-/

namespace Exposure

namespace Fragment

open Layout (IsLine AllTidy allTidy_iff)

theorem Layout.IsLine.ofPlain {text : String} (plain : text.toList.all (· != '\n') = true) : IsLine text := by
  intro member
  exact absurd (List.all_eq_true.mp plain _ member) (by decide)

/-! Values -/

theorem encode_isLine (text : String) : IsLine (Literal.encode text) := Literal.encode_noFeed text

theorem encodeOption_isLine (text : Option String) : IsLine (Literal.encodeOption text) := by
  cases text with
  | none => exact .ofPlain rfl
  | some text => exact (IsLine.append (.ofPlain rfl) (encode_isLine text)).append (.ofPlain rfl)

theorem truth_isLine (value : Bool) : IsLine (truth value) := .ofPlain (by cases value <;> rfl)

theorem truth_injective : Function.Injective truth := by
  intro one two
  cases one <;> cases two <;> decide

theorem typeIdentity_isLine {identity : String} (ofIdentity : IsLine identity) : IsLine (typeIdentity identity) :=
  (IsLine.append (.ofPlain rfl) ofIdentity).append (.ofPlain rfl)

theorem typeIdentity_injective : Function.Injective typeIdentity := fun _ _ same =>
  (String.append_right_inj _).mp ((String.append_left_inj _).mp same)

/-- The last characters of two texts are the same when the texts are. -/
theorem ends_eq {one two before before' : String} (same : before ++ one = before' ++ two) (proper : one.toList ≠ [])
    (proper' : two.toList ≠ []) : one.toList.getLast? = two.toList.getLast? := by
  have lasts := congrArg (·.toList.getLast?) same
  simp only [String.toList_append] at lasts
  rwa [List.getLast?_append_of_ne_nil _ proper, List.getLast?_append_of_ne_nil _ proper'] at lasts

section Runtime

variable (runtime : String)

theorem variantPath_rename {enumeration value value' : String}
    (same : variantPath runtime enumeration value = variantPath runtime enumeration value') :
    RenameRule.rename (some .pascal) value = RenameRule.rename (some .pascal) value' :=
  (String.append_right_inj _).mp same

theorem passing_unique {one two : PassingKind}
    (same : variantPath runtime "ParameterKind" one.text = variantPath runtime "ParameterKind" two.text) : one = two := by
  have renamed := variantPath_rename runtime same
  revert renamed
  cases one <;> cases two <;> decide +kernel

theorem shape_unique {one two : CallShape}
    (same : variantPath runtime "CallShape" one.text = variantPath runtime "CallShape" two.text) : one = two := by
  have renamed := variantPath_rename runtime same
  revert renamed
  cases one <;> cases two <;> decide +kernel

theorem methodKind_unique {one two : MethodKind}
    (same : variantPath runtime "MethodKind" one.text = variantPath runtime "MethodKind" two.text) : one = two := by
  have renamed := variantPath_rename runtime same
  revert renamed
  cases one <;> cases two <;> decide +kernel

/-- The expressions for an untyped place, for the empty tuple and for other types end in different ways. -/
theorem typeOutput_injective : Function.Injective (typeOutput runtime) := by
  intro one two same
  have ends {before before' last last' : String} (given : before ++ last = before' ++ last') (proper : last.toList ≠ [])
      (proper' : last'.toList ≠ []) (differ : last.toList.getLast? ≠ last'.toList.getLast?) : one = two :=
    absurd (ends_eq given proper proper') differ
  unfold typeOutput at same
  split at same
  · rename_i untyped
    split at same
    · rename_i untyped'
      rw [untyped, untyped']
    · split at same
      · exact ends same (by decide) (by decide) (by decide)
      · exact ends same (by decide) (by decide) (by decide)
  · split at same
    · rename_i empty
      split at same
      · exact ends same (by decide) (by decide) (by decide)
      · split at same
        · rename_i empty'
          rw [empty, empty']
        · exact ends same (by decide) (by decide) (by decide)
    · split at same
      · exact ends same (by decide) (by decide) (by decide)
      · split at same
        · exact ends same (by decide) (by decide) (by decide)
        · have fronts := (String.append_left_inj _).mp ((String.append_left_inj _).mp ((String.append_left_inj _).mp same))
          exact (String.append_right_inj _).mp fronts

end Runtime

/-! Fields -/

@[simp] theorem assign_eq_iff {name one two : String} : assign name one = assign name two ↔ one = two := by
  rw [assign, assign, Layout.line.injEq, String.append_left_inj, String.append_right_inj]

@[simp] theorem record_eq_iff {runtime name : String} {one two : List Layout} :
    record runtime name one = record runtime name two ↔ one = two := by
  simp [record]

@[simp] theorem listField_eq_iff {name : String} {one two : List Layout} :
    listField name one = listField name two ↔ one = two := by
  simp [listField]

theorem assign_isTidy {name value : String} (ofName : IsLine name) (ofValue : IsLine value) :
    (assign name value).IsTidy := by
  refine ⟨((ofName.append (.ofPlain rfl)).append ofValue).append (.ofPlain rfl), ?_⟩
  rw [String.toList_append]
  exact List.getLast?_concat

theorem record_isTidy {runtime name : String} (ofRuntime : IsLine runtime) (ofName : IsLine name) {fields : List Layout}
    (each : AllTidy fields) : (record runtime name fields).IsTidy := by
  refine ⟨⟨((ofRuntime.append (.ofPlain rfl)).append ofName).append (.ofPlain rfl), ?_⟩, ⟨.ofPlain rfl, by decide⟩, each⟩
  rw [String.toList_append, List.getLast?_append_of_ne_nil _ (by decide)]
  decide

theorem listField_isTidy {name : String} (ofName : IsLine name) {elements : List Layout} (each : AllTidy elements) :
    (listField name elements).IsTidy := by
  refine ⟨⟨ofName.append (.ofPlain rfl), ?_⟩, ⟨.ofPlain rfl, by decide⟩, each⟩
  rw [String.toList_append, List.getLast?_append_of_ne_nil _ (by decide)]
  decide

/-- Lists that are the same after a transformation are the same when it keeps their elements apart. -/
theorem eq_of_map_eq {value result : Type} {transform : value → result} {kept : value → Prop}
    (apart : ∀ one two, kept one → kept two → transform one = transform two → one = two) {ones twos : List value}
    (ofOnes : ∀ one ∈ ones, kept one) (ofTwos : ∀ two ∈ twos, kept two)
    (same : ones.map transform = twos.map transform) : ones = twos := by
  induction ones generalizing twos with
  | nil => exact (List.map_eq_nil_iff.mp same.symm).symm
  | cons first rest step =>
    cases twos with
    | nil => cases same
    | cons first' rest' =>
      obtain ⟨ofFirst, ofRest⟩ := List.forall_mem_cons.mp ofOnes
      obtain ⟨ofFirst', ofRest'⟩ := List.forall_mem_cons.mp ofTwos
      obtain ⟨firsts, rests⟩ := List.cons.inj same
      rw [apart first first' ofFirst ofFirst' firsts, step ofRest ofRest' rests]

/-- A parameter has a default exactly when it has the text of one. -/
def DefaultIsKnown (parameter : ParameterDescriptor) : Prop := parameter.hasDefault = parameter.defaultText.isSome

instance (parameter : ParameterDescriptor) : Decidable (DefaultIsKnown parameter) :=
  inferInstanceAs (Decidable (_ = _))

/-- Every parameter of a callable has a default exactly when it has the text of one. -/
def DefaultsAreKnown (callable : CallableDescriptor) : Prop := ∀ parameter ∈ callable.parameters, DefaultIsKnown parameter

instance (callable : CallableDescriptor) : Decidable (DefaultsAreKnown callable) :=
  inferInstanceAs (Decidable (∀ parameter ∈ callable.parameters, DefaultIsKnown parameter))

section Records

variable (runtime : String)

theorem ofParameter_unique (one two : ParameterDescriptor) (ofOne : DefaultIsKnown one) (ofTwo : DefaultIsKnown two)
    (same : ofParameter runtime one = ofParameter runtime two) : one = two := by
  have default (parameter : ParameterDescriptor) (known : DefaultIsKnown parameter) :
      (if parameter.hasDefault then parameter.defaultText else none) = parameter.defaultText := by
    rw [known]
    cases parameter.defaultText <;> rfl
  simp only [ofParameter, record_eq_iff, List.cons.injEq, assign_eq_iff, and_true, default one ofOne,
    default two ofTwo] at same
  obtain ⟨names, kinds, types, defaults⟩ := same
  have sameDefault := Literal.encodeOption_injective defaults
  have claimed : one.hasDefault = two.hasDefault := by rw [ofOne, ofTwo, sameDefault]
  rcases one with ⟨name, type, passing, hasDefault, text⟩
  rw [ParameterDescriptor.mk.injEq]
  exact ⟨Literal.encode_injective names, typeOutput_injective runtime types, passing_unique runtime kinds, claimed,
    sameDefault⟩

theorem callableFields_unique {one two : CallableDescriptor} (ofOne : DefaultsAreKnown one) (ofTwo : DefaultsAreKnown two)
    (same : callableFields runtime one = callableFields runtime two) : one = two := by
  simp only [callableFields, listField_eq_iff, List.cons.injEq, assign_eq_iff, and_true] at same
  obtain ⟨names, parameters, returns, shapes, docs⟩ := same
  rcases one with ⟨name, listed, returned, doc, shape⟩
  rw [CallableDescriptor.mk.injEq]
  exact ⟨Literal.encode_injective names, eq_of_map_eq (ofParameter_unique runtime) ofOne ofTwo parameters,
    typeOutput_injective runtime returns, Literal.encode_injective docs, shape_unique runtime shapes⟩

theorem length_callableFields (callable : CallableDescriptor) : (callableFields runtime callable).length = 5 := rfl

theorem methodFields_unique {one two : CallableDescriptor} {kind kind' : MethodKind} (ofOne : DefaultsAreKnown one)
    (ofTwo : DefaultsAreKnown two) (same : methodFields runtime kind one = methodFields runtime kind' two) :
    kind = kind' ∧ one = two := by
  rw [methodFields, methodFields] at same
  obtain ⟨callables, kinds⟩ := List.append_inj same (by rw [length_callableFields, length_callableFields])
  simp only [List.cons.injEq, assign_eq_iff, and_true] at kinds
  exact ⟨methodKind_unique runtime kinds, callableFields_unique runtime ofOne ofTwo callables⟩

theorem ofMethod_unique (one two : MethodDescriptor) (ofOne : DefaultsAreKnown one.callable)
    (ofTwo : DefaultsAreKnown two.callable) (same : ofMethod runtime one = ofMethod runtime two) : one = two := by
  obtain ⟨kinds, callables⟩ := methodFields_unique runtime ofOne ofTwo (record_eq_iff.mp same)
  rcases one with ⟨kind, callable⟩
  rw [MethodDescriptor.mk.injEq]
  exact ⟨kinds, callables⟩

theorem ofMember_injective : Function.Injective (ofMember runtime) := by
  intro one two same
  simp only [ofMember, record_eq_iff, List.cons.injEq, assign_eq_iff, and_true] at same
  obtain ⟨names, types, readables, writables, docs⟩ := same
  rcases one with ⟨name, type, readable, writable, doc⟩
  rw [MemberDescriptor.mk.injEq]
  exact ⟨Literal.encode_injective names, typeOutput_injective runtime types, truth_injective readables,
    truth_injective writables, Literal.encode_injective docs⟩

theorem constructorField_unique {one two : Option CallableDescriptor} (ofOne : ∀ callable ∈ one, DefaultsAreKnown callable)
    (ofTwo : ∀ callable ∈ two, DefaultsAreKnown callable)
    (same : constructorField runtime one = constructorField runtime two) : one = two := by
  cases one with
  | none =>
    cases two with
    | none => rfl
    | some callable => cases same
  | some callable =>
    cases two with
    | none => cases same
    | some callable' =>
      obtain ⟨-, fields, -⟩ := Layout.block.inj same
      rw [(methodFields_unique runtime (ofOne callable rfl) (ofTwo callable' rfl) fields).2]

theorem ofVariant_injective : Function.Injective ofVariant := by
  intro one two same
  have lists := (String.append_right_inj _).mp ((String.append_left_inj _).mp (Layout.line.inj same))
  have texts : [one.name, one.value, one.doc] = [two.name, two.value, two.doc] := Literal.commaList_injective lists
  simp only [List.cons.injEq, and_true] at texts
  rcases one with ⟨name, value, doc⟩
  rw [VariantDescriptor.mk.injEq]
  exact texts

/-! Descriptors -/

/-- Two descriptors differ at most in the name that a function has in the source. -/
def SameButSourceName (one two : Descriptor) : Prop :=
  one = two ∨ ∃ item name, one = .ofFunction item ∧ two = .ofFunction { item with sourceName := name }

/-- The fields of a descriptor, and the kind of its record, tell it from others. -/
theorem fields_unique {one two : Descriptor} (ofOne : ∀ callable ∈ one.callables, DefaultsAreKnown callable)
    (ofTwo : ∀ callable ∈ two.callables, DefaultsAreKnown callable) (names : recordName one = recordName two)
    (same : fields runtime one = fields runtime two) : SameButSourceName one two := by
  cases one with
  | ofClass item =>
    cases two with
    | ofClass item' =>
      simp only [fields, typeFields, List.cons_append, List.nil_append, List.cons.injEq, assign_eq_iff, listField_eq_iff,
        and_true] at same
      obtain ⟨identities, exposed, modules, docs, bases, members, constructors, flags⟩ := same
      have lists := (String.append_right_inj _).mp ((String.append_left_inj _).mp flags)
      refine .inl (congrArg Descriptor.ofClass ?_)
      rcases item with ⟨exposedName, module, membersOf, constructor, doc, identity, base, flagsOf⟩
      rw [ClassDescriptor.mk.injEq]
      exact ⟨Literal.encode_injective exposed, Literal.encodeOption_injective modules,
        (ofMember_injective runtime).list_map members,
        constructorField_unique runtime (fun callable member => ofOne callable (Option.mem_toList.mpr member))
          (fun callable member => ofTwo callable (Option.mem_toList.mpr member)) constructors,
        Literal.encode_injective docs, typeIdentity_injective identities, Literal.encodeOption_injective bases,
        Literal.commaList_injective lists⟩
    | _ => simp [recordName] at names
  | ofEnum item =>
    cases two with
    | ofEnum item' =>
      simp only [fields, typeFields, List.cons_append, List.nil_append, List.cons.injEq, assign_eq_iff, listField_eq_iff,
        and_true] at same
      obtain ⟨identities, exposed, modules, docs, variants⟩ := same
      refine .inl (congrArg Descriptor.ofEnum ?_)
      rcases item with ⟨exposedName, module, variantsOf, doc, identity⟩
      rw [EnumDescriptor.mk.injEq]
      exact ⟨Literal.encode_injective exposed, Literal.encodeOption_injective modules,
        ofVariant_injective.list_map variants, Literal.encode_injective docs, typeIdentity_injective identities⟩
    | _ => simp [recordName] at names
  | ofMethods block =>
    cases two with
    | ofMethods block' =>
      simp only [fields, List.cons.injEq, assign_eq_iff, listField_eq_iff, and_true] at same
      obtain ⟨identities, methods, properties, attributes⟩ := same
      refine .inl (congrArg Descriptor.ofMethods ?_)
      rcases block with ⟨identity, methodsOf, propertiesOf, attributesOf⟩
      rw [MethodsDescriptor.mk.injEq]
      exact ⟨typeIdentity_injective identities,
        eq_of_map_eq (ofMethod_unique runtime) (List.forall_mem_map.mp ofOne) (List.forall_mem_map.mp ofTwo) methods,
        (ofMember_injective runtime).list_map properties, (ofMember_injective runtime).list_map attributes⟩
    | _ => simp [recordName] at names
  | ofFunction item =>
    cases two with
    | ofFunction item' =>
      rw [fields, fields] at same
      obtain ⟨callables, modules⟩ := List.append_inj same (by rw [length_callableFields, length_callableFields])
      simp only [List.cons.injEq, assign_eq_iff, and_true] at modules
      have sameCallable := callableFields_unique runtime (ofOne _ (List.mem_singleton_self _))
        (ofTwo _ (List.mem_singleton_self _)) callables
      have sameModule := Literal.encodeOption_injective modules
      refine .inr ⟨item, item'.sourceName, rfl, ?_⟩
      rw [sameCallable, sameModule]
    | _ => simp [recordName] at names

end Records

/-! Tidy layouts -/

section Tidy

variable {runtime : String} (ofRuntime : IsLine runtime)

theorem typeFields_allTidy {key identity : String} (ofKey : IsLine key) (ofIdentity : IsLine identity) (name : String)
    (module : Option String) (doc : String) : AllTidy (typeFields key identity name module doc) :=
  ⟨assign_isTidy ofKey (typeIdentity_isLine ofIdentity), assign_isTidy (.ofPlain rfl) (encode_isLine _),
    assign_isTidy (.ofPlain rfl) (encodeOption_isLine _), assign_isTidy (.ofPlain rfl) (encode_isLine _), trivial⟩

theorem commaList_isLine (texts : List String) : IsLine (", ".intercalate (texts.map Literal.encode)) :=
  .intercalate (.ofPlain rfl) (List.forall_mem_map.mpr fun text _ => encode_isLine text)

theorem ofVariant_isTidy (variant : VariantDescriptor) : (ofVariant variant).IsTidy := by
  have listed := commaList_isLine [variant.name, variant.value, variant.doc]
  refine ⟨(IsLine.append (.ofPlain rfl) listed).append (.ofPlain rfl), ?_⟩
  rw [String.toList_append, List.getLast?_append_of_ne_nil _ (by decide)]
  rfl

include ofRuntime

theorem variantPath_isLine {enumeration value : String} (ofEnumeration : IsLine enumeration)
    (ofValue : IsLine (RenameRule.rename (some .pascal) value)) : IsLine (variantPath runtime enumeration value) :=
  (((ofRuntime.append (.ofPlain rfl)).append ofEnumeration).append (.ofPlain rfl)).append ofValue

theorem typeOutput_isLine {signature : String} (ofSignature : IsLine signature) :
    IsLine (typeOutput runtime signature) := by
  unfold typeOutput
  split
  · exact ofRuntime.append (.ofPlain rfl)
  · split
    · exact ofRuntime.append (.ofPlain rfl)
    · exact ((((IsLine.ofPlain rfl).append ofSignature).append (.ofPlain rfl)).append ofRuntime).append (.ofPlain rfl)

theorem ofParameter_isTidy {parameter : ParameterDescriptor} (ofType : IsLine parameter.typeSignature) :
    (ofParameter runtime parameter).IsTidy := by
  have ofKind : IsLine (RenameRule.rename (some .pascal) parameter.passing.text) :=
    .ofPlain (by cases parameter.passing <;> rfl)
  refine record_isTidy ofRuntime (.ofPlain rfl) ?_
  exact ⟨assign_isTidy (.ofPlain rfl) (encode_isLine _),
    assign_isTidy (.ofPlain rfl) (variantPath_isLine ofRuntime (.ofPlain rfl) ofKind),
    assign_isTidy (.ofPlain rfl) (typeOutput_isLine ofRuntime ofType),
    assign_isTidy (.ofPlain rfl) (encodeOption_isLine _), trivial⟩

theorem callableFields_allTidy {callable : CallableDescriptor} (ofTypes : ∀ text ∈ callable.typeTexts, IsLine text) :
    AllTidy (callableFields runtime callable) := by
  obtain ⟨ofReturn, ofParameters⟩ := List.forall_mem_cons.mp ofTypes
  have ofShape : IsLine (RenameRule.rename (some .pascal) callable.shape.text) :=
    .ofPlain (by cases callable.shape <;> rfl)
  have listed : AllTidy (callable.parameters.map (ofParameter runtime)) :=
    allTidy_iff.mpr (List.forall_mem_map.mpr fun parameter member =>
      ofParameter_isTidy ofRuntime (ofParameters _ (List.mem_map_of_mem member)))
  exact ⟨assign_isTidy (.ofPlain rfl) (encode_isLine _), listField_isTidy (.ofPlain rfl) listed,
    assign_isTidy (.ofPlain rfl) (typeOutput_isLine ofRuntime ofReturn),
    assign_isTidy (.ofPlain rfl) (variantPath_isLine ofRuntime (.ofPlain rfl) ofShape),
    assign_isTidy (.ofPlain rfl) (encode_isLine _), trivial⟩

theorem methodFields_allTidy (kind : MethodKind) {callable : CallableDescriptor}
    (ofTypes : ∀ text ∈ callable.typeTexts, IsLine text) : AllTidy (methodFields runtime kind callable) := by
  have ofKind : IsLine (RenameRule.rename (some .pascal) kind.text) := .ofPlain (by cases kind <;> rfl)
  refine (callableFields_allTidy ofRuntime ofTypes).append ⟨?_, trivial⟩
  exact assign_isTidy (.ofPlain rfl) (variantPath_isLine ofRuntime (.ofPlain rfl) ofKind)

theorem ofMember_isTidy {member : MemberDescriptor} (ofType : IsLine member.typeSignature) :
    (ofMember runtime member).IsTidy :=
  record_isTidy ofRuntime (.ofPlain rfl)
    ⟨assign_isTidy (.ofPlain rfl) (encode_isLine _), assign_isTidy (.ofPlain rfl) (typeOutput_isLine ofRuntime ofType),
      assign_isTidy (.ofPlain rfl) (truth_isLine _), assign_isTidy (.ofPlain rfl) (truth_isLine _),
      assign_isTidy (.ofPlain rfl) (encode_isLine _), trivial⟩

theorem constructorField_isTidy {constructor : Option CallableDescriptor}
    (ofTypes : ∀ text ∈ constructor.toList.flatMap CallableDescriptor.typeTexts, IsLine text) :
    (constructorField runtime constructor).IsTidy := by
  cases constructor with
  | none => exact assign_isTidy (.ofPlain rfl) (.ofPlain rfl)
  | some callable =>
    rw [Option.toList_some, List.flatMap_singleton] at ofTypes
    refine ⟨⟨(IsLine.append (.ofPlain rfl) ofRuntime).append (.ofPlain rfl), ?_⟩, ⟨.ofPlain rfl, by decide⟩,
      methodFields_allTidy ofRuntime .constructor ofTypes⟩
    rw [String.toList_append, List.getLast?_append_of_ne_nil _ (by decide)]
    decide

/-- The fields of a descriptor are tidy where its type texts are lines. -/
theorem fields_allTidy {descriptor : Descriptor} (ofTypes : ∀ text ∈ descriptor.typeTexts, IsLine text) :
    AllTidy (fields runtime descriptor) := by
  have members {listed : List MemberDescriptor} (each : ∀ member ∈ listed, IsLine member.typeSignature) :
      AllTidy (listed.map (ofMember runtime)) :=
    allTidy_iff.mpr (List.forall_mem_map.mpr fun member inside => ofMember_isTidy ofRuntime (each member inside))
  cases descriptor with
  | ofClass item =>
    obtain ⟨ofIdentity, ofRest⟩ := List.forall_mem_cons.mp ofTypes
    obtain ⟨ofMembers, ofConstructor⟩ := List.forall_mem_append.mp ofRest
    have flags : IsLine ("&[" ++ ", ".intercalate (item.flags.map Literal.encode) ++ "]") :=
      (IsLine.append (.ofPlain rfl) (commaList_isLine item.flags)).append (.ofPlain rfl)
    refine (typeFields_allTidy (.ofPlain rfl) ofIdentity _ _ _).append ?_
    exact ⟨assign_isTidy (.ofPlain rfl) (encodeOption_isLine _),
      listField_isTidy (.ofPlain rfl) (members (List.forall_mem_map.mp ofMembers)),
      constructorField_isTidy ofRuntime ofConstructor, assign_isTidy (.ofPlain rfl) flags, trivial⟩
  | ofEnum item =>
    have ofIdentity : IsLine item.sourceIdentity := ofTypes _ (List.mem_singleton.mpr rfl)
    have variants : AllTidy (item.variants.map ofVariant) :=
      allTidy_iff.mpr (List.forall_mem_map.mpr fun variant _ => ofVariant_isTidy variant)
    exact (typeFields_allTidy (.ofPlain rfl) ofIdentity _ _ _).append ⟨listField_isTidy (.ofPlain rfl) variants, trivial⟩
  | ofMethods block =>
    obtain ⟨ofIdentity, ofRest⟩ := List.forall_mem_cons.mp ofTypes
    obtain ⟨ofMethods, ofMembers⟩ := List.forall_mem_append.mp ofRest
    obtain ⟨ofProperties, ofAttributes⟩ := List.forall_mem_append.mp (List.forall_mem_map.mp ofMembers)
    have methods : AllTidy (block.methods.map (ofMethod runtime)) :=
      allTidy_iff.mpr (List.forall_mem_map.mpr fun method inside =>
        record_isTidy ofRuntime (.ofPlain rfl) (methodFields_allTidy ofRuntime method.kind fun text member =>
          ofMethods text (List.mem_flatMap.mpr ⟨method, inside, member⟩)))
    exact ⟨assign_isTidy (.ofPlain rfl) (typeIdentity_isLine ofIdentity), listField_isTidy (.ofPlain rfl) methods,
      listField_isTidy (.ofPlain rfl) (members ofProperties), listField_isTidy (.ofPlain rfl) (members ofAttributes),
      trivial⟩
  | ofFunction item =>
    exact (callableFields_allTidy ofRuntime ofTypes).append
      ⟨assign_isTidy (.ofPlain rfl) (encodeOption_isLine _), trivial⟩

theorem layout_isTidy {descriptor : Descriptor} (ofTypes : ∀ text ∈ descriptor.typeTexts, IsLine text) :
    (layout runtime descriptor).IsTidy := by
  have name : IsLine (recordName descriptor) := by
    cases descriptor <;> (rw [recordName]; decide)
  have noComma (before : String) : (before ++ " \x7b").toList.getLast? ≠ some ',' := by
    rw [String.toList_append, List.getLast?_append_of_ne_nil _ (by decide)]
    decide
  refine ⟨⟨ofRuntime.append (.ofPlain rfl), ?_⟩, ⟨.ofPlain rfl, by decide⟩, ?_, trivial⟩
  · rw [String.toList_append, List.getLast?_append_of_ne_nil _ (by decide)]
    decide
  · exact ⟨⟨((ofRuntime.append (.ofPlain rfl)).append name).append (.ofPlain rfl), noComma _⟩, ⟨.ofPlain rfl, by decide⟩,
      fields_allTidy ofRuntime ofTypes⟩

end Tidy

/-- A descriptor that can be told from its code: no line feed stands in its type texts, and its parameters have a default
exactly when they have the text of one. -/
structure IsPlain (descriptor : Descriptor) : Prop where
  typeTexts : ∀ text ∈ descriptor.typeTexts, IsLine text
  defaults : ∀ callable ∈ descriptor.callables, DefaultsAreKnown callable

/-- The code that registers a descriptor loses nothing: on a runtime path of one line, two plain descriptors of any kind
have the same code exactly when they differ at most in the name that a function has in the source. -/
theorem ofDescriptor_losesNothing {runtime : String} (ofRuntime : IsLine runtime) {one two : Descriptor}
    (ofOne : IsPlain one) (ofTwo : IsPlain two) :
    ofDescriptor runtime one = ofDescriptor runtime two ↔ SameButSourceName one two := by
  constructor
  · intro same
    have layouts := Layout.text_unique (layout_isTidy ofRuntime ofOne.typeTexts) (layout_isTidy ofRuntime ofTwo.typeTexts)
      same
    simp only [layout, Layout.block.injEq, List.cons.injEq, and_true, true_and] at layouts
    obtain ⟨openings, sameFields⟩ := layouts
    have names := (String.append_right_inj _).mp ((String.append_left_inj _).mp openings)
    exact fields_unique runtime ofOne.defaults ofTwo.defaults names sameFields
  · rintro (rfl | ⟨item, name, rfl, rfl⟩)
    · rfl
    · rfl

/-- A class with a constructor and the same class without one have different code. -/
theorem ofDescriptor_losesNothing_constructor :
    ofDescriptor "::stubmeta" (.ofClass ⟨"A", none, [], none, "", "A", none, ["frozen"]⟩) ≠
      ofDescriptor "::stubmeta" (.ofClass ⟨"A", none, [],
        some ⟨"new", [⟨"x", "u8", .keywordOnly, true, some "0"⟩], "A", "", .keywords⟩, "", "A", none, ["frozen"]⟩) := by
  intro same
  rcases (ofDescriptor_losesNothing (by decide) ⟨by decide, by decide⟩ ⟨by decide, by decide⟩).mp same with
    alike | ⟨item, name, isFunction, -⟩
  · exact absurd alike (by decide)
  · cases isFunction

end Fragment

end Exposure
