import Exposure.Proofs.Accounting
import Exposure.Proofs.Exploration

/-!
# The order of the functions of a block

What a block is described as is put together from views on its functions one by one: a function is a method, a class
attribute or an accessor, or it is skipped. `MethodsDescriptor.Describable` says of these views when a block is described at
all, and nothing in it depends on the order of the functions. So in another order the functions are all described or at fault
as before, with the methods and class attributes in that other order and the same properties.
-/

namespace Exposure

open MethodsProgress (IsMethod IsClassAttribute)

namespace FunctionItem

variable {owner : String} {function : FunctionItem}

/-- The method that a function is, if it is of such a kind. -/
def method? (owner : String) (function : FunctionItem) : Option MethodDescriptor :=
  (function.kind?.filter MethodKind.isMethod).bind fun kind =>
    (CallableDescriptor.ofMethod owner kind function).toOption.map (⟨kind, ·⟩)

/-- The class attribute that a function is, if it is of that kind. -/
def classAttribute? (owner : String) (function : FunctionItem) : Option MemberDescriptor :=
  if function.kind? = some .classAttribute then do
    let options ← (CallableDescriptor.optionsOf function).toOption
    let doc ← (Documentation.ofAttributes function.header.attributes).toOption
    return ⟨options.nameOr function.name, CallableDescriptor.returnSignature (some owner) function, true, false, doc⟩
  else none

/-- The accessor that a function is, if it is of such a kind. -/
def accessor? (owner : String) (function : FunctionItem) : Option Accessor :=
  if function.kind?.any MethodKind.isAccessor then (Accessor.ofFunction owner function).toOption else none

/-- The accessors among some functions. -/
def accessors (owner : String) (functions : List FunctionItem) : List Accessor := functions.filterMap (·.accessor? owner)

theorem method?_eq_some_iff {method : MethodDescriptor} :
    function.method? owner = some method ↔ method.kind.isMethod = true ∧ IsMethod owner function method := by
  simp only [method?, Option.bind_eq_some_iff, Option.filter_eq_some_iff, Option.map_eq_some_iff,
    Outcome.toOption_eq_some, IsMethod]
  constructor
  · rintro ⟨kind, ⟨known, isMethod⟩, callable, described, rfl⟩
    exact ⟨isMethod, known, described⟩
  · rintro ⟨isMethod, known, described⟩
    exact ⟨method.kind, ⟨known, isMethod⟩, method.callable, described, rfl⟩

theorem classAttribute?_eq_some_iff {member : MemberDescriptor} :
    function.classAttribute? owner = some member ↔
      function.kind? = some .classAttribute ∧ IsClassAttribute owner function member := by
  simp only [classAttribute?]
  split
  case isTrue known =>
    simp only [known, true_and, IsClassAttribute, Option.bind_eq_bind, Option.bind_eq_some_iff, Outcome.toOption_eq_some,
      Option.pure_def, Option.some.injEq]
    constructor
    · rintro ⟨options, ofOptions, doc, documented, rfl⟩
      exact ⟨options, doc, ofOptions, documented, rfl⟩
    · rintro ⟨options, doc, ofOptions, documented, rfl⟩
      exact ⟨options, ofOptions, doc, documented, rfl⟩
  case isFalse other => simp [other]

theorem accessor?_eq_some_iff {accessor : Accessor} :
    function.accessor? owner = some accessor ↔
      function.kind?.any MethodKind.isAccessor = true ∧ Accessor.ofFunction owner function = .ok accessor := by
  simp only [accessor?]
  split <;> simp [*]

end FunctionItem

/-- What lists the functions of some kinds lists what a view finds that says the same of these and nothing of the others. -/
theorem Lists.eq_filterMap {description : Type} {describes : FunctionItem → description → Prop} {kinds : MethodKind → Bool}
    {functions : List FunctionItem} {listed : List description} (lists : Lists describes kinds functions listed)
    {view : FunctionItem → Option description}
    (own : ∀ function one, function.kind?.any kinds = true → describes function one → view function = some one)
    (other : ∀ function, function.kind?.any kinds = false → view function = none) :
    listed = functions.filterMap view := by
  induction functions generalizing listed with
  | nil => exact List.forall₂_nil_left_iff.mp lists
  | cons first rest again =>
    cases kept : first.kind?.any kinds with
    | false =>
      rw [Lists, List.filter_cons_of_neg (by simp [kept])] at lists
      rw [List.filterMap_cons_none (other first kept), ← again lists]
    | true =>
      rw [Lists, List.filter_cons_of_pos (by simpa using kept)] at lists
      obtain ⟨one, others, described, rest, rfl⟩ := List.forall₂_cons_left_iff.mp lists
      rw [List.filterMap_cons_some (own first one kept described), ← again rest]

namespace MethodsProgress.Records

variable {owner : String} {functions : List FunctionItem} {accessors : List Accessor} {progress : MethodsProgress}

theorem methods_eq (records : Records owner functions accessors progress) :
    progress.methods = functions.filterMap (·.method? owner) := by
  refine records.methods.eq_filterMap ?_ ?_
  · intro function method own described
    exact FunctionItem.method?_eq_some_iff.mpr ⟨by rwa [described.1, Option.any_some] at own, described⟩
  · intro function other
    apply Option.eq_none_iff_forall_ne_some.mpr
    intro method found
    obtain ⟨isMethod, known, -⟩ := FunctionItem.method?_eq_some_iff.mp found
    rw [known, Option.any_some, isMethod] at other
    cases other

theorem classAttributes_eq (records : Records owner functions accessors progress) :
    progress.classAttributes = functions.filterMap (·.classAttribute? owner) := by
  refine records.classAttributes.eq_filterMap ?_ ?_
  · intro function member own described
    obtain ⟨kind, known, isAttribute⟩ := (Option.any_eq_true _ _).mp own
    obtain rfl := of_decide_eq_true isAttribute
    exact FunctionItem.classAttribute?_eq_some_iff.mpr ⟨known, described⟩
  · intro function other
    apply Option.eq_none_iff_forall_ne_some.mpr
    intro member found
    rw [(FunctionItem.classAttribute?_eq_some_iff.mp found).1] at other
    cases other

theorem accessors_eq (records : Records owner functions accessors progress) :
    accessors = FunctionItem.accessors owner functions := by
  refine records.halves.eq_filterMap ?_ ?_
  · intro function accessor own found
    exact FunctionItem.accessor?_eq_some_iff.mpr ⟨own, found⟩
  · intro function other
    rw [FunctionItem.accessor?, if_neg (by simp [other])]

end MethodsProgress.Records

/-- A function can be read: its stub options can, and they skip it, or it is a method, a class attribute or an accessor. -/
def FunctionItem.IsReadable (owner : String) (function : FunctionItem) : Prop :=
  ∃ stub, Options.ofAttributes .ofStubMethod "gen_stub" function.header.attributes [] = .ok stub ∧
    (stub.has .skip = true ∨ (function.method? owner).isSome = true ∨ (function.classAttribute? owner).isSome = true ∨
      (function.accessor? owner).isSome = true)

namespace MethodsProgress

variable {owner : String} {before after : MethodsProgress} {function : FunctionItem}

/-- What is read can be read. -/
theorem isReadable_of_read (run : read owner before function = .ok after) : function.IsReadable owner := by
  obtain ⟨stub, ofStub, -⟩ := Outcome.bind_eq_ok.mp run
  refine ⟨stub, ofStub, ?_⟩
  obtain ⟨skipped, -, -⟩ | ⟨kind, known, run⟩ := read_cases run
  · exact .inl (by simpa [FunctionItem.isSkipped, ofStub, Except.toOption] using skipped)
  · obtain ⟨rfl, getter, found, -⟩ | ⟨rfl, setter, found, -⟩ | ⟨rfl, member, described, -⟩ |
      ⟨isMethod, callable, described, -⟩ := readKind_cases run
    · have half := FunctionItem.accessor?_eq_some_iff.mpr
        ⟨by rw [known]; rfl, by rw [Accessor.ofFunction, if_pos known, found]⟩
      exact .inr (.inr (.inr (Option.isSome_of_eq_some half)))
    · have half := FunctionItem.accessor?_eq_some_iff.mpr
        ⟨by rw [known]; rfl, by rw [Accessor.ofFunction, if_neg (by simp [known]), found]⟩
      exact .inr (.inr (.inr (Option.isSome_of_eq_some half)))
    · have constant := FunctionItem.classAttribute?_eq_some_iff.mpr ⟨known, described⟩
      exact .inr (.inr (.inl (Option.isSome_of_eq_some constant)))
    · have method : function.method? owner = some ⟨kind, callable⟩ :=
        FunctionItem.method?_eq_some_iff.mpr ⟨isMethod, known, described⟩
      exact .inr (.inl (Option.isSome_of_eq_some method))

/-- Functions that are read one after the other can each be read. -/
theorem isReadable_of_foldlM {functions : List FunctionItem} (run : functions.foldlM (read owner) before = .ok after) :
    ∀ function ∈ functions, function.IsReadable owner := by
  refine Outcome.foldlM_history (fun past _ => ∀ function ∈ past, function.IsReadable owner) ?_ nofun run
  intro past before next _ after readable step
  exact List.forall_mem_append.mpr ⟨readable, List.forall_mem_singleton.mpr (isReadable_of_read step)⟩

/-- A function of a known kind is read as that kind asks, if its stub options can be read. -/
theorem read_eq_readKind {stub : Options}
    (ofStub : Options.ofAttributes .ofStubMethod "gen_stub" function.header.attributes [] = .ok stub) {kind : MethodKind}
    (known : function.kind? = some kind) : read owner before function = readKind owner before function kind := by
  rw [FunctionItem.kind?] at known
  split at known
  case isTrue => cases known
  case isFalse shown =>
    have noSkip : stub.has .skip = false := by simpa [FunctionItem.isSkipped, ofStub, Except.toOption] using shown
    rw [Outcome.toOption_eq_some] at known
    simp [read, ofStub, noSkip, known, bind, Except.bind]

/-- A function that can be read is read behind others, if what it is called is free. -/
theorem exists_read (readable : function.IsReadable owner)
    (methodFree : ∀ method, function.method? owner = some method → method.callable.name ∉ before.claimed)
    (constantFree : ∀ member, function.classAttribute? owner = some member → member.name ∉ before.claimed)
    (getterFree : ∀ half, function.accessor? owner = some half → half.isGetter = true →
      half.name ∉ before.getters.map (·.name))
    (setterFree : ∀ half, function.accessor? owner = some half → half.isSetter = true →
      half.name ∉ before.setters.map (·.name)) :
    ∃ after, read owner before function = .ok after := by
  obtain ⟨stub, ofStub, skipped | method | constant | half⟩ := readable
  · exact ⟨before, by simp [read, ofStub, skipped]⟩
  · obtain ⟨method, found⟩ := Option.isSome_iff_exists.mp method
    obtain ⟨isMethod, known, described⟩ := FunctionItem.method?_eq_some_iff.mp found
    have claims := claim_of_notMem (methodFree method found) function
    rw [read_eq_readKind ofStub known]
    cases kind : method.kind <;> rw [kind] at isMethod described <;> cases isMethod <;>
      simp [readKind, described, claims]
  · obtain ⟨member, found⟩ := Option.isSome_iff_exists.mp constant
    obtain ⟨known, options, doc, ofOptions, documented, rfl⟩ := FunctionItem.classAttribute?_eq_some_iff.mp found
    have claims := claim_of_notMem (constantFree _ found) function
    rw [read_eq_readKind ofStub known]
    simp [readKind, ofOptions, documented, claims]
  · obtain ⟨half, found⟩ := Option.isSome_iff_exists.mp half
    obtain ⟨isAccessor, made⟩ := FunctionItem.accessor?_eq_some_iff.mp found
    obtain ⟨kind, known, isAccessor⟩ := (Option.any_eq_true _ _).mp isAccessor
    rw [Accessor.ofFunction] at made
    rw [read_eq_readKind ofStub known]
    split at made
    case isTrue isGetter =>
      obtain rfl : kind = .getter := Option.some.inj (known.symm.trans isGetter)
      have free := getterFree half found (by simp [Accessor.isGetter, Accessor.ofGetter_function made, known])
      simp [readKind, made, mt find?_isSome.mp free]
    case isFalse noGetter =>
      have isSetter : kind = .setter := by
        cases kind <;> simp_all [MethodKind.isAccessor]
      subst isSetter
      have free := setterFree half found (by simp [Accessor.isSetter, Accessor.ofSetter_function made, known])
      simp [readKind, made, mt find?_isSome.mp free]

end MethodsProgress

/-! When a block is described -/

/-- The names that are taken in the description of some functions: those of the methods, the class attributes and the
getters. -/
def FunctionItem.takenNames (owner : String) (functions : List FunctionItem) : List String :=
  (functions.filterMap (·.method? owner)).map (·.callable.name) ++
    (functions.filterMap (·.classAttribute? owner)).map (·.name) ++
    ((accessors owner functions).filter Accessor.isGetter).map (·.name)

open FunctionItem (accessors takenNames)

/-- Functions can be described as a block: each of them can be read, no name is taken twice, no two setters have one name,
and every setter has a getter that it matches. -/
structure MethodsDescriptor.Describable (owner : String) (functions : List FunctionItem) : Prop where
  readable : ∀ function ∈ functions, function.IsReadable owner
  names : (takenNames owner functions).Nodup
  setters : (((accessors owner functions).filter Accessor.isSetter).map (·.name)).Nodup
  matching : ∀ setter ∈ accessors owner functions, setter.isSetter = true →
    ∃ getter ∈ accessors owner functions, getter.isGetter = true ∧ getter.name = setter.name ∧
      Accessor.Matches owner getter setter

namespace FunctionItem

variable {owner : String} {functions functions' : List FunctionItem} {function : FunctionItem}

theorem takenNames_append_perm (one other : List FunctionItem) :
    (takenNames owner (one ++ other)).Perm (takenNames owner one ++ takenNames owner other) := by
  rw [List.perm_iff_count]
  intro name
  simp only [takenNames, accessors, List.filterMap_append, List.filter_append, List.map_append, List.count_append]
  omega

theorem takenNames_perm (same : functions.Perm functions') :
    (takenNames owner functions).Perm (takenNames owner functions') :=
  (((same.filterMap _).map _).append ((same.filterMap _).map _)).append (((same.filterMap _).filter _).map _)

theorem mem_takenNames_of_method (listed : function ∈ functions) {method : MethodDescriptor}
    (found : function.method? owner = some method) : method.callable.name ∈ takenNames owner functions :=
  List.mem_append_left _ (List.mem_append_left _ (List.mem_map_of_mem (List.mem_filterMap.mpr ⟨function, listed, found⟩)))

theorem mem_takenNames_of_classAttribute (listed : function ∈ functions) {member : MemberDescriptor}
    (found : function.classAttribute? owner = some member) : member.name ∈ takenNames owner functions :=
  List.mem_append_left _ (List.mem_append_right _ (List.mem_map_of_mem (List.mem_filterMap.mpr ⟨function, listed, found⟩)))

theorem mem_takenNames_of_getter (listed : function ∈ functions) {getter : Accessor}
    (found : function.accessor? owner = some getter) (isGetter : getter.isGetter = true) :
    getter.name ∈ takenNames owner functions :=
  List.mem_append_right _ (List.mem_map_of_mem
    (List.mem_filter.mpr ⟨List.mem_filterMap.mpr ⟨function, listed, found⟩, isGetter⟩))

end FunctionItem

namespace MethodsProgress

open MethodsDescriptor (Describable)

variable {owner : String} {functions : List FunctionItem} {progress : MethodsProgress}

namespace Records

variable {halves : List Accessor} (records : Records owner functions halves progress)

include records

/-- The names claimed by the functions and those of the getters are the names taken. -/
theorem takenNames_perm :
    (progress.claimed ++ progress.getters.map (·.name)).Perm (takenNames owner functions) := by
  rw [takenNames, ← records.methods_eq, ← records.classAttributes_eq, ← records.accessors_eq, ← records.getters]
  exact records.claimed.append_right _

theorem claimed_subset : progress.claimed ⊆ takenNames owner functions :=
  fun _ claimed => records.takenNames_perm.subset (List.mem_append_left _ claimed)

theorem getters_subset : progress.getters.map (·.name) ⊆ takenNames owner functions :=
  fun _ named => records.takenNames_perm.subset (List.mem_append_right _ named)

end Records

/-- The functions of a describable block are read one after the other. -/
theorem exists_foldlM_read (describable : Describable owner functions) :
    ∃ progress, functions.foldlM (read owner) .start = .ok progress := by
  apply Outcome.exists_foldlM_eq_ok
  rintro past next rest before rfl run
  obtain ⟨halves, records⟩ := Records.run run
  have listed : next ∈ next :: rest := List.mem_cons_self
  -- What is taken so far is not taken again by the functions to come.
  have apart : (takenNames owner past).Disjoint (takenNames owner (next :: rest)) :=
    List.disjoint_of_nodup_append ((FunctionItem.takenNames_append_perm past _).nodup_iff.mp describable.names)
  have settersApart : (before.setters.map (·.name)).Disjoint
      (((accessors owner (next :: rest)).filter Accessor.isSetter).map (·.name)) := by
    have distinct := describable.setters
    rw [accessors, List.filterMap_append, ← accessors, ← accessors, List.filter_append, List.map_append,
      ← records.accessors_eq, ← records.setters] at distinct
    exact List.disjoint_of_nodup_append distinct
  apply exists_read (describable.readable next (List.mem_append_right _ listed))
  · exact fun method found claimed =>
      apart (records.claimed_subset claimed) (FunctionItem.mem_takenNames_of_method listed found)
  · exact fun member found claimed =>
      apart (records.claimed_subset claimed) (FunctionItem.mem_takenNames_of_classAttribute listed found)
  · exact fun half found isGetter named =>
      apart (records.getters_subset named) (FunctionItem.mem_takenNames_of_getter listed found isGetter)
  · intro half found isSetter named
    refine settersApart named (List.mem_map_of_mem (List.mem_filter.mpr ⟨?_, isSetter⟩))
    exact List.mem_filterMap.mpr ⟨next, listed, found⟩

/-- The accessors of a describable block are merged one property after the other. -/
theorem exists_foldlM_addProperty (describable : Describable owner functions) {halves : List Accessor}
    (records : Records owner functions halves progress) :
    ∃ last, progress.properties.foldlM (addProperty owner) (progress, []) = .ok last := by
  have whole := records.accessors_eq
  apply Outcome.exists_foldlM_eq_ok
  intro past name rest before split run
  have listed : name ∈ progress.properties := split ▸ List.mem_append_right _ List.mem_cons_self
  have merged := Merged.ofNames records (split ▸ List.subset_append_left past _) run
  obtain ⟨getter, ofGetter, named⟩ : ∃ getter ∈ progress.getters, getter.name = name := by
    rw [records.properties, List.mem_eraseDups] at listed
    obtain ⟨half, inside, rfl⟩ := List.mem_map.mp listed
    rw [records.getters]
    rcases records.getter_or_setter inside with isGetter | isSetter
    · exact ⟨half, List.mem_filter.mpr ⟨inside, isGetter⟩, rfl⟩
    · obtain ⟨getter, inside', isGetter, same, -⟩ := describable.matching half (whole ▸ inside) isSetter
      exact ⟨getter, List.mem_filter.mpr ⟨whole ▸ inside', isGetter⟩, same⟩
  subst named
  have found := find?_of_mem records.gettersOnce ofGetter
  have free : getter.name ∉ before.1.claimed := by
    rw [merged.claimed.mem_iff, List.mem_append, not_or]
    have taken := records.takenNames_perm.nodup_iff.mpr describable.names
    have once : progress.properties.Nodup := records.properties ▸ Chain.nodup_eraseDups _
    rw [split] at once
    exact ⟨fun claimed => List.disjoint_of_nodup_append taken claimed (List.mem_map_of_mem ofGetter),
      fun earlier => List.disjoint_of_nodup_append once earlier List.mem_cons_self⟩
  have claims := claim_of_notMem free getter.function
  obtain ⟨state, members⟩ := before
  have getters : state.getters = progress.getters := merged.getters
  have setters : state.setters = progress.setters := merged.setters
  cases ofSetter : find? progress.setters getter.name with
  | none => simp [addProperty, getters, setters, found, ofSetter, claims]
  | some setter =>
    obtain ⟨inside, sameName⟩ := find?_eq_some ofSetter
    rw [records.setters, whole] at inside
    obtain ⟨ofHalves, isSetter⟩ := List.mem_filter.mp inside
    obtain ⟨other, inside', isGetter, named, matched⟩ := describable.matching setter ofHalves isSetter
    have ofOther : other ∈ progress.getters := records.getters ▸ List.mem_filter.mpr ⟨whole ▸ inside', isGetter⟩
    obtain rfl := List.inj_on_of_nodup_map records.gettersOnce ofOther ofGetter (named.trans sameName)
    have settable := Accessor.settable_iff.mpr matched
    simp [addProperty, getters, setters, found, ofSetter, settable, claims]

end MethodsProgress

/-- The property that a getter makes together with the setter of its name, if there is one among the accessors. -/
def Accessor.property (halves : List Accessor) (getter : Accessor) : MemberDescriptor :=
  ⟨getter.name, getter.typeSignature, true, halves.any fun setter => setter.isSetter && setter.name = getter.name,
    getter.doc⟩

/-- Merged properties are those of the getters, in some order. -/
theorem Accessor.Merges.perm {owner : String} {halves : List Accessor} {properties : List MemberDescriptor}
    (merges : Merges owner halves properties) (once : (properties.map (·.name)).Nodup) :
    properties.Perm ((halves.filter Accessor.isGetter).map (Accessor.property halves)) := by
  have gettersOnce := merges.getters.nodup_iff.mpr once
  have made : ((halves.filter Accessor.isGetter).map (Accessor.property halves)).Nodup := by
    refine List.Nodup.of_map (·.name) ?_
    rw [List.map_map]
    exact gettersOnce
  refine (List.perm_ext_iff_of_nodup (List.Nodup.of_map _ once) made).mpr fun property => ⟨fun listed => ?_, fun ofGetter => ?_⟩
  · obtain ⟨getter, inside, isGetter, rfl⟩ := merges.entries property listed
    exact List.mem_map.mpr ⟨getter, List.mem_filter.mpr ⟨inside, isGetter⟩, rfl⟩
  · obtain ⟨getter, kept, rfl⟩ := List.mem_map.mp ofGetter
    obtain ⟨property, listed, sameName⟩ := List.mem_map.mp (merges.getters.subset (List.mem_map_of_mem kept))
    obtain ⟨other, inside, isGetter, rfl⟩ := merges.entries property listed
    obtain rfl := List.inj_on_of_nodup_map gettersOnce (List.mem_filter.mpr ⟨inside, isGetter⟩) kept sameName
    exact listed

namespace MethodsDescriptor

variable {owner : String} {block : ImplItem} {functions functions' : List FunctionItem}

/-- A block is described exactly when it implements no trait and its functions can be described. -/
theorem exists_ofImpl_iff :
    (∃ found, ofImpl block = .ok found) ↔ block.trait = none ∧ Describable block.targetName block.functions := by
  constructor
  · rintro ⟨found, run⟩
    simp only [ofImpl] at run
    split at run
    case h_1 => simp at run
    case h_2 inherent =>
      simp only [Outcome.bind_eq_ok, Outcome.pure_eq_ok] at run
      obtain ⟨progress, read, last, merge, rfl⟩ := run
      obtain ⟨halves, records⟩ := MethodsProgress.Records.run read
      have merged := MethodsProgress.Merged.run records merge
      have merges := MethodsProgress.merges records merged
      have whole := records.accessors_eq
      refine ⟨inherent, MethodsProgress.isReadable_of_foldlM read, ?_, ?_, ?_⟩
      · have named : (progress.getters.map (·.name)).Perm progress.properties := by
          rw [records.getters, ← merged.order]
          exact merges.getters
        refine records.takenNames_perm.nodup_iff.mp ?_
        exact ((merged.claimed.trans (named.symm.append_left _)).nodup_iff).mp merged.distinct
      · exact whole ▸ merges.setters
      · exact whole ▸ merges.matching
  · rintro ⟨inherent, describable⟩
    obtain ⟨progress, read⟩ := MethodsProgress.exists_foldlM_read describable
    obtain ⟨halves, records⟩ := MethodsProgress.Records.run read
    obtain ⟨last, merge⟩ := MethodsProgress.exists_foldlM_addProperty describable records
    exact ⟨_, by simp only [ofImpl, inherent, Outcome.bind_eq_ok, Outcome.pure_eq_ok]; exact ⟨_, read, _, merge, rfl⟩⟩

/-- In another order functions can be described too. -/
theorem Describable.perm (same : functions.Perm functions') (describable : Describable owner functions) :
    Describable owner functions' := by
  have halves : (accessors owner functions).Perm (accessors owner functions') := same.filterMap _
  refine ⟨?_, (FunctionItem.takenNames_perm same).nodup_iff.mp describable.names,
    ((halves.filter _).map _).nodup_iff.mp describable.setters, ?_⟩
  · exact fun function listed => describable.readable function (same.mem_iff.mpr listed)
  · intro setter listed isSetter
    obtain ⟨getter, inside, matched⟩ := describable.matching setter (halves.mem_iff.mpr listed) isSetter
    exact ⟨getter, halves.mem_iff.mp inside, matched⟩

/-- What a described block lists: the methods and class attributes among its functions, in their order, and the properties of
the getters, in some order. -/
theorem ofImpl_lists {found : MethodsDescriptor} (run : ofImpl block = .ok found) :
    found.methods = block.functions.filterMap (·.method? block.targetName) ∧
      found.classAttributes = block.functions.filterMap (·.classAttribute? block.targetName) ∧
      found.properties.Perm (((accessors block.targetName block.functions).filter Accessor.isGetter).map
        (Accessor.property (accessors block.targetName block.functions))) := by
  simp only [ofImpl] at run
  split at run
  case h_1 => simp at run
  case h_2 =>
    simp only [Outcome.bind_eq_ok, Outcome.pure_eq_ok] at run
    obtain ⟨progress, read, last, merge, rfl⟩ := run
    obtain ⟨halves, records⟩ := MethodsProgress.Records.run read
    have merged := MethodsProgress.Merged.run records merge
    have once : (last.2.map (·.name)).Nodup := by
      rw [merged.order, records.properties]
      exact Chain.nodup_eraseDups _
    refine ⟨records.methods_eq, records.classAttributes_eq, ?_⟩
    rw [← records.accessors_eq]
    exact (MethodsProgress.merges records merged).perm once

/-- The order of the functions of a block does not matter: in another order they are described, or at fault, as before; the
methods and the class attributes are those that the functions are one by one, in the order of the functions; and the
properties are the same, whether a setter stands before its getter or behind it. -/
theorem ofImpl_perm (block : ImplItem) {functions : List FunctionItem} (same : functions.Perm block.functions) :
    ((∃ found, ofImpl block = .ok found) ↔ ∃ found, ofImpl { block with functions := functions } = .ok found) ∧
    ∀ one other, ofImpl block = .ok one → ofImpl { block with functions := functions } = .ok other →
      one.targetIdentity = other.targetIdentity ∧
      (one.methods = block.functions.filterMap (·.method? block.targetName) ∧
        other.methods = functions.filterMap (·.method? block.targetName)) ∧
      (one.classAttributes = block.functions.filterMap (·.classAttribute? block.targetName) ∧
        other.classAttributes = functions.filterMap (·.classAttribute? block.targetName)) ∧
      one.properties.Perm other.properties := by
  constructor
  · rw [exists_ofImpl_iff, exists_ofImpl_iff]
    exact and_congr_right fun _ => ⟨Describable.perm same.symm, Describable.perm same⟩
  · intro one other run again
    obtain ⟨methods, constants, properties⟩ := ofImpl_lists run
    obtain ⟨methods', constants', properties'⟩ := ofImpl_lists again
    have identity := (ofImpl_accounts run).1
    have identity' := (ofImpl_accounts again).1
    have halves : (accessors block.targetName functions).Perm (accessors block.targetName block.functions) :=
      same.filterMap _
    have sameProperty : Accessor.property (accessors block.targetName functions) =
        Accessor.property (accessors block.targetName block.functions) := by
      funext getter
      simp only [Accessor.property, halves.any_eq]
    refine ⟨identity.trans identity'.symm, ⟨methods, methods'⟩, ⟨constants, constants'⟩, properties.trans ?_⟩
    refine List.Perm.trans ?_ properties'.symm
    change (_ : List MemberDescriptor).Perm (((accessors block.targetName functions).filter _).map
      (Accessor.property (accessors block.targetName functions)))
    rw [sameProperty]
    exact ((halves.filter _).map _).symm

/-- A block in which the setter of a property, for an option, stands before its getter is described as its reverse is. -/
theorem ofImpl_perm_reversed :
    ∃ items, parse "impl A \x7b #[setter] fn b(c: Option<d>); #[new] fn e(); #[classattr] fn k() -> u8; fn g(&self);
        #[getter] fn get_b() -> d; \x7d" = .ok items ∧
      ∃ block ∈ items.filterMap Item.impl?, ∃ one other, ofImpl block = .ok one ∧
        ofImpl { block with functions := block.functions.reverse } = .ok other ∧
        one.names = ["__new__", "g", "b", "k"] ∧ other.names = ["g", "__new__", "b", "k"] ∧
        one.properties.Perm other.properties := by
  have passed : (parse "impl A \x7b #[setter] fn b(c: Option<d>); #[new] fn e(); #[classattr] fn k() -> u8; fn g(&self);
        #[getter] fn get_b() -> d; \x7d").toOption.any
      (fun items => (items.filterMap Item.impl?).any fun block =>
        (ofImpl block).toOption.any (fun one => one.names = ["__new__", "g", "b", "k"]) &&
          (ofImpl { block with functions := block.functions.reverse }).toOption.any fun other =>
            other.names = ["g", "__new__", "b", "k"]) = true := by
    decide +kernel
  simp only [Option.any_eq_true, List.any_eq_true, Outcome.toOption_eq_some, decide_eq_true_eq, Bool.and_eq_true] at passed
  obtain ⟨items, parsed, block, member, ⟨one, run, names⟩, other, again, names'⟩ := passed
  obtain ⟨-, alike⟩ := ofImpl_perm block (List.reverse_perm block.functions)
  exact ⟨items, parsed, block, member, one, other, run, again, names, names', (alike one other run again).2.2.2⟩

end MethodsDescriptor

end Exposure
