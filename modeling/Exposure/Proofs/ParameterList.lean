import Exposure.Proofs.Analysis
import Exposure.Proofs.Description

namespace Exposure

/-- How many parameters of a list are passed in each way, group behind group. -/
structure Arrangement where
  positionalOnly : Nat
  positionalOrKeyword : Nat
  variadicPositional : Nat
  keywordOnly : Nat
  variadicKeyword : Nat

/-- The ways to pass the parameters of an arrangement, in order. -/
def Arrangement.kinds (groups : Arrangement) : List PassingKind :=
  List.replicate groups.positionalOnly .positionalOnly ++
    List.replicate groups.positionalOrKeyword .positionalOrKeyword ++
    List.replicate groups.variadicPositional .variadicPositional ++
    List.replicate groups.keywordOnly .keywordOnly ++ List.replicate groups.variadicKeyword .variadicKeyword

namespace ParameterDescriptor

/-- A default is claimed only with its text, and never for a parameter that takes any number of arguments. -/
structure IsHonest (parameter : ParameterDescriptor) : Prop where
  defaultPresent : parameter.hasDefault = parameter.defaultText.isSome
  variadicRequired : parameter.passing.isVariadic = true → parameter.hasDefault = false

/-- Within a group of parameters those with a default stand behind those without one. -/
def DefaultsLast (group : PassingKind → Bool) (parameters : List ParameterDescriptor) : Prop :=
  parameters.Pairwise fun before behind =>
    group before.passing = true → group behind.passing = true → before.hasDefault = true → behind.hasDefault = true

/-- The same for parameters of which an earlier one may already have had a default. -/
def DefaultsFrom (group : PassingKind → Bool) (given : Bool) (parameters : List ParameterDescriptor) : Prop :=
  (given = true → ∀ parameter ∈ parameters, group parameter.passing = true → parameter.hasDefault = true) ∧
    DefaultsLast group parameters

theorem defaultsFrom_cons {group : PassingKind → Bool} {given : Bool} {first : ParameterDescriptor}
    {rest : List ParameterDescriptor} :
    DefaultsFrom group given (first :: rest) ↔
      (group first.passing = true → given = true → first.hasDefault = true) ∧
        DefaultsFrom group (given || group first.passing && first.hasDefault) rest := by
  simp only [DefaultsFrom, DefaultsLast, List.pairwise_cons, List.mem_cons, forall_eq_or_imp, Bool.or_eq_true,
    Bool.and_eq_true]
  grind

end ParameterDescriptor

namespace CallableDescriptor

open ParameterDescriptor

/-- The parameters of a callable can be declared as they stand, and its shape is theirs. -/
structure IsLegal (callable : CallableDescriptor) : Prop where
  namesDistinct : (callable.parameters.map (·.name)).Nodup
  kindsArranged : ∃ groups : Arrangement, groups.variadicPositional ≤ 1 ∧ groups.variadicKeyword ≤ 1 ∧
    callable.parameters.map (·.passing) = groups.kinds
  positionalDefaultsLast : DefaultsLast (·.isPositional) callable.parameters
  keywordDefaultsLast : DefaultsLast (· = .keywordOnly) callable.parameters
  honest : ∀ parameter ∈ callable.parameters, parameter.IsHonest
  shapeOfParameters : callable.shape = .ofParameters callable.parameters

end CallableDescriptor

/-- The callables that a descriptor holds: its constructor, its methods, or itself. -/
def Descriptor.callables : Descriptor → List CallableDescriptor
  | .ofClass item => item.constructor.toList
  | .ofEnum _ => []
  | .ofMethods block => block.methods.map (·.callable)
  | .ofFunction item => [item.callable]

namespace Signature

open ParameterDescriptor

theorem describe_isHonest {owner : Option String} {parameter : Parameter} {passing : PassingKind}
    {default : Option String} (required : passing.isVariadic = true → default = none) :
    (describe owner parameter passing default).IsHonest where
  defaultPresent := rfl
  variadicRequired variadic := by simp [describe, required variadic]

/-- A parameter that takes any number of arguments is described without a default. -/
theorem describe_variadic_isHonest {owner : Option String} {parameter : Parameter} {passing : PassingKind} :
    (describe owner parameter passing none).IsHonest :=
  describe_isHonest fun _ => rfl

/-- One more parameter passes if it has a default where its group has had one, and the others pass behind it. -/
theorem checkDefaultOrder_cons_eq_ok_iff {declared : List Parameter} {first : ParameterDescriptor}
    {rest : List ParameterDescriptor} {positional keyword : Bool} {done : Unit} :
    checkDefaultOrder declared positional keyword (first :: rest) = .ok done ↔
      (first.passing.isPositional = true → positional = true → first.hasDefault = true) ∧
        (first.passing = .keywordOnly → keyword = true → first.hasDefault = true) ∧
        checkDefaultOrder declared (positional || first.passing.isPositional && first.hasDefault)
          (keyword || first.passing = .keywordOnly && first.hasDefault) rest = .ok done := by
  rw [checkDefaultOrder]
  cases first.passing <;> cases first.hasDefault <;> cases positional <;> cases keyword <;>
    simp [PassingKind.isPositional]

/-- Checking passes exactly the lists in which the defaults of either group stand last. -/
theorem checkDefaultOrder_eq_ok_iff {declared : List Parameter} {parameters : List ParameterDescriptor}
    {positional keyword : Bool} {done : Unit} :
    checkDefaultOrder declared positional keyword parameters = .ok done ↔
      DefaultsFrom (·.isPositional) positional parameters ∧ DefaultsFrom (· = .keywordOnly) keyword parameters := by
  induction parameters generalizing positional keyword with
  | nil => simp [checkDefaultOrder, DefaultsFrom, DefaultsLast]
  | cons first rest step =>
    rw [checkDefaultOrder_cons_eq_ok_iff, defaultsFrom_cons, defaultsFrom_cons, step, decide_eq_true_eq]
    tauto

namespace Progress

/-- The ways to pass the parameters that have been read, given the markers that have been read. -/
structure Arranged (progress : Progress) (groups : Arrangement) : Prop where
  kinds : progress.described.map (·.passing) = groups.kinds
  oneVariadicPositional : groups.variadicPositional ≤ 1
  oneVariadicKeyword : groups.variadicKeyword ≤ 1
  beforeSlash : progress.afterSlash = false → groups.positionalOnly = 0
  beforeStar : progress.star = none → groups.variadicPositional = 0 ∧ groups.keywordOnly = 0
  beforeKeywords : progress.afterKeywords = false → groups.variadicKeyword = 0

/-- What the elements read so far keep: distinct names, the order of the groups, and honest defaults. -/
structure Sound (progress : Progress) : Prop where
  namesSeen : progress.described.map (·.name) = progress.seen.reverse
  seenDistinct : progress.seen.Nodup
  arranged : ∃ groups, progress.Arranged groups
  honest : ∀ parameter ∈ progress.described, parameter.IsHonest

theorem start_sound : start.Sound where
  namesSeen := rfl
  seenDistinct := List.nodup_nil
  arranged := ⟨⟨0, 0, 0, 0, 0⟩, ⟨rfl, by simp, by simp, fun _ => rfl, fun _ => ⟨rfl, rfl⟩, fun _ => rfl⟩⟩
  honest := by simp [start]

/-- A located parameter may be described next, if its way to be passed fits behind the others. -/
theorem Sound.adding {progress : Progress} (sound : progress.Sound) (groups : Arrangement) {name : String}
    {index : Nat} {descriptor : ParameterDescriptor} (named : descriptor.name = name) (fresh : name ∉ progress.seen)
    (honest : descriptor.IsHonest) {star : Option SignatureEntry} {afterKeywords : Bool}
    (arranged : Arranged { (progress.noting name index).adding descriptor with
      star := star, afterKeywords := afterKeywords } groups) :
    Sound { (progress.noting name index).adding descriptor with star := star, afterKeywords := afterKeywords } where
  namesSeen := by simp [Progress.adding, noting, sound.namesSeen, named]
  seenDistinct := List.nodup_cons.mpr ⟨fresh, sound.seenDistinct⟩
  arranged := ⟨groups, arranged⟩
  honest := by
    intro parameter member
    rcases List.mem_append.mp member with before | last
    · exact sound.honest parameter before
    · exact List.mem_singleton.mp last ▸ honest

/-- The slash turns every parameter before it into one that is passed by position only. -/
theorem Sound.slash {progress : Progress} (sound : progress.Sound) :
    Sound { progress with
      described := progress.described.map fun descriptor => { descriptor with passing := .positionalOnly }
      afterSlash := true } where
  namesSeen := by simpa [Function.comp_def] using sound.namesSeen
  seenDistinct := sound.seenDistinct
  arranged := by
    refine ⟨⟨progress.described.length, 0, 0, 0, 0⟩, ?_, by simp, by simp, by simp, fun _ => ⟨rfl, rfl⟩, fun _ => rfl⟩
    simp [Arrangement.kinds, Function.comp_def]
  honest := by
    intro parameter member
    obtain ⟨before, inside, rfl⟩ := List.mem_map.mp member
    exact ⟨(sound.honest before inside).defaultPresent, by simp [PassingKind.isVariadic]⟩

/-- Reading one more element keeps what has been read sound. -/
theorem Sound.read {declared : List Parameter} {options : Options} {owner : Option String} {before after : Progress}
    {entry : SignatureEntry} (sound : before.Sound) (step : before.read declared options owner entry = .ok after) :
    after.Sound := by
  obtain ⟨groups, arranged⟩ := sound.arranged
  cases read_eq_ok_iff.mp step with
  | slash form admits => exact sound.slash
  | star form admits =>
    exact ⟨sound.namesSeen, sound.seenDistinct, ⟨groups, { arranged with beforeStar := by simp }⟩, sound.honest⟩
  | variadicPositional form located admits =>
    obtain ⟨isOpen, noStar⟩ := admits
    obtain ⟨named, fresh, -⟩ := locate_eq_ok located
    obtain ⟨noVariadic, noKeyword⟩ := arranged.beforeStar noStar
    refine sound.adding { groups with variadicPositional := 1 } named fresh describe_variadic_isHonest
      ⟨?_, by simp, arranged.oneVariadicKeyword, arranged.beforeSlash, by simp, arranged.beforeKeywords⟩
    simp [Progress.adding, noting, arranged.kinds, Arrangement.kinds, describe, noVariadic, noKeyword,
      arranged.beforeKeywords isOpen]
  | variadicKeyword form located admits =>
    obtain ⟨isOpen, -⟩ := admits
    obtain ⟨named, fresh, -⟩ := locate_eq_ok located
    refine sound.adding { groups with variadicKeyword := 1 } named fresh describe_variadic_isHonest
      ⟨?_, arranged.oneVariadicPositional, by simp, arranged.beforeSlash, arranged.beforeStar, by simp⟩
    simp [Progress.adding, noting, arranged.kinds, Arrangement.kinds, describe, arranged.beforeKeywords isOpen]
  | named form located admits =>
    have isOpen : before.afterKeywords = false := admits
    obtain ⟨named, fresh, -⟩ := locate_eq_ok located
    cases starred : before.star with
    | none =>
      obtain ⟨noVariadic, noKeyword⟩ := arranged.beforeStar starred
      refine sound.adding { groups with positionalOrKeyword := groups.positionalOrKeyword + 1 } named fresh
        (describe_isHonest (by simp [PassingKind.isVariadic]))
        ⟨?_, arranged.oneVariadicPositional, arranged.oneVariadicKeyword, arranged.beforeSlash, arranged.beforeStar,
          arranged.beforeKeywords⟩
      simp [Progress.adding, noting, arranged.kinds, Arrangement.kinds, describe, starred, noVariadic, noKeyword,
        arranged.beforeKeywords isOpen, List.replicate_succ']
    | some star =>
      refine sound.adding { groups with keywordOnly := groups.keywordOnly + 1 } named fresh
        (describe_isHonest (by simp [PassingKind.isVariadic]))
        ⟨?_, arranged.oneVariadicPositional, arranged.oneVariadicKeyword, arranged.beforeSlash,
          by simp [noting, starred], arranged.beforeKeywords⟩
      simp [Progress.adding, noting, arranged.kinds, Arrangement.kinds, describe, starred,
        arranged.beforeKeywords isOpen, List.replicate_succ']

theorem Sound.run {declared : List Parameter} {options : Options} {owner : Option String}
    {entries : List SignatureEntry} {last : Progress}
    (read : entries.foldlM (Progress.read declared options owner) start = .ok last) : last.Sound :=
  Outcome.foldlM_invariant Sound (fun _ _ _ _ sound step => sound.read step) start_sound read

theorem Sound.opensPositional {progress : Progress} (sound : progress.Sound) : progress.OpensPositional := by
  obtain ⟨groups, arranged⟩ := sound.arranged
  intro isOpen noStar descriptor member
  obtain ⟨noVariadic, noKeyword⟩ := arranged.beforeStar noStar
  have passing : descriptor.passing ∈ groups.kinds := arranged.kinds ▸ List.mem_map_of_mem member
  simp only [Arrangement.kinds, noVariadic, noKeyword, arranged.beforeKeywords isOpen, List.replicate_zero,
    List.append_nil, List.mem_append, List.mem_replicate] at passing
  rcases passing with ⟨-, same⟩ | ⟨-, same⟩ <;> rw [same] <;> rfl

end Progress

theorem implicitParameters_names {parameters : List Parameter} {options : Options} {owner : Option String} :
    (implicitParameters parameters options owner).map (·.name) = parameters.map (·.name) := by
  apply List.ext_getElem <;> simp [implicitParameters, describe]

theorem implicitParameters_kinds {parameters : List Parameter} {options : Options} {owner : Option String} :
    (implicitParameters parameters options owner).map (·.passing) =
      List.replicate parameters.length .positionalOrKeyword := by
  apply List.ext_getElem <;> simp [implicitParameters, describe]

theorem implicitParameters_honest {parameters : List Parameter} {options : Options} {owner : Option String} :
    ∀ parameter ∈ implicitParameters parameters options owner, parameter.IsHonest := by
  intro parameter member
  obtain ⟨index, inside, rfl⟩ := List.mem_mapIdx.mp member
  exact describe_isHonest (by simp [PassingKind.isVariadic])

/-- Analysed parameters are legal under whatever name and text they are exposed with. -/
theorem isLegal_of_analyze {parameters : List Parameter} {options : Options} {owner : Option String}
    {signature : Signature} (run : analyze parameters options owner = .ok signature)
    (name returnType doc : String) :
    CallableDescriptor.IsLegal ⟨name, signature.parameters, returnType, doc, signature.shape⟩ := by
  obtain ⟨recorded, described, -, distinct, yields, order, rfl⟩ := analyze_eq_ok_iff.mp run
  obtain ⟨positionalLast, keywordLast⟩ := checkDefaultOrder_eq_ok_iff.mp order
  cases yields with
  | implicit absent =>
    exact {
      namesDistinct := implicitParameters_names ▸ distinct
      kindsArranged := ⟨⟨0, (visible parameters).length, 0, 0, 0⟩, by simp, by simp,
        by simp [implicitParameters_kinds, Arrangement.kinds]⟩
      positionalDefaultsLast := positionalLast.2
      keywordDefaultsLast := keywordLast.2
      honest := implicitParameters_honest
      shapeOfParameters := rfl }
  | explicit given explicit =>
    obtain ⟨last, read, -, -, rfl⟩ := explicitParameters_eq_ok_iff.mp explicit
    have sound := Progress.Sound.run read
    obtain ⟨groups, arranged⟩ := sound.arranged
    exact {
      namesDistinct := by simpa only [sound.namesSeen] using List.nodup_reverse.mpr sound.seenDistinct
      kindsArranged := ⟨groups, arranged.oneVariadicPositional, arranged.oneVariadicKeyword, arranged.kinds⟩
      positionalDefaultsLast := positionalLast.2
      keywordDefaultsLast := keywordLast.2
      honest := sound.honest
      shapeOfParameters := rfl }

end Signature

namespace CallableDescriptor

theorem isLegal_of_ofMethod {owner : String} {kind : MethodKind} {function : FunctionItem}
    {callable : CallableDescriptor} (run : ofMethod owner kind function = .ok callable) : callable.IsLegal := by
  simp only [ofMethod, ofMethodWith, Outcome.bind_eq_ok] at run
  obtain ⟨options, -, signature, analysed, doc, -, run⟩ := run
  split at run
  · rw [← Outcome.pure_eq_ok.mp run]
    exact Signature.isLegal_of_analyze analysed _ _ _
  · rw [← Outcome.pure_eq_ok.mp run]
    exact Signature.isLegal_of_analyze analysed _ _ _

theorem isLegal_of_ofConstructor {owner : String} {functions : List FunctionItem} {callable : CallableDescriptor}
    (run : ofConstructor? owner functions = .ok (some callable)) : callable.IsLegal := by
  simp only [ofConstructor?] at run
  split at run
  · simp at run
  · simp only [Outcome.map_eq_ok, Option.some.injEq] at run
    obtain ⟨found, described, rfl⟩ := run
    exact isLegal_of_ofMethod described
  · simp at run

end CallableDescriptor

/-- Every method of a block is legal. -/
theorem MethodsDescriptor.isLegal_of_ofImpl {block : ImplItem} {descriptor : MethodsDescriptor}
    (run : ofImpl block = .ok descriptor) : ∀ method ∈ descriptor.methods, method.callable.IsLegal := by
  obtain ⟨-, progress, read, same⟩ := ofImpl_eq_ok run
  rw [same]
  refine Outcome.foldlM_invariant (fun progress => ∀ method ∈ progress.methods, method.callable.IsLegal) ?_
    (by simp [MethodsProgress.start]) read
  intro before function _ after legal step
  rcases MethodsProgress.read_methods step with ⟨unchanged, -⟩ | ⟨kind, callable, -, -, described, added⟩
  · rwa [unchanged]
  · intro method member
    rw [added] at member
    rcases List.mem_append.mp member with earlier | last
    · exact legal method earlier
    · rw [List.mem_singleton.mp last]
      exact CallableDescriptor.isLegal_of_ofMethod described

theorem FunctionDescriptor.isLegal_of_ofFunction {item : FunctionItem} {options : Options}
    {descriptor : FunctionDescriptor} (run : ofFunction item options = .ok descriptor) :
    descriptor.callable.IsLegal := by
  obtain ⟨own, -, -, -, signature, analysed, doc, -, rfl⟩ := ofFunction_eq_ok_iff.mp run
  exact Signature.isLegal_of_analyze analysed _ _ _

theorem ClassDescriptor.constructor_of_ofStruct {item : StructItem} {options : Options}
    {associated : List FunctionItem} {descriptor : ClassDescriptor}
    (run : ofStruct item options associated = .ok descriptor) :
    descriptor.sourceIdentity = item.name ∧
      CallableDescriptor.ofConstructor? item.name associated = .ok descriptor.constructor := by
  simp only [ofStruct, Outcome.bind_eq_ok, Outcome.pure_eq_ok] at run
  obtain ⟨members, -, constructor, described, doc, -, rfl⟩ := run
  exact ⟨rfl, described⟩

namespace Expansion

/-- Every callable that a text exposes, outside and inside blocks and classes, has a parameter list that can be declared
as it stands. -/
theorem callables_isLegal {text : String} {expansions : List Expansion} (run : ofText text = .ok expansions) :
    ∀ expansion ∈ expansions, ∀ callable ∈ expansion.descriptor.callables, callable.IsLegal := by
  simp only [ofText, Outcome.bind_eq_ok] at run
  obtain ⟨items, -, run⟩ := run
  intro expansion member callable inside
  obtain ⟨-, step, -⟩ := exists_item_of_mem run member
  rcases expansion with ⟨item, descriptor, source⟩
  cases describes_of_describe step with
  | ofStruct described =>
    obtain ⟨-, constructor⟩ := ClassDescriptor.constructor_of_ofStruct described
    rw [Descriptor.callables, Option.mem_toList] at inside
    exact CallableDescriptor.isLegal_of_ofConstructor (inside ▸ constructor)
  | ofEnum described => cases inside
  | ofImpl isBlock tagged described =>
    obtain ⟨method, listed, rfl⟩ := List.mem_map.mp inside
    exact MethodsDescriptor.isLegal_of_ofImpl described method listed
  | ofFunction isFunction described =>
    rw [List.mem_singleton.mp inside]
    exact FunctionDescriptor.isLegal_of_ofFunction described

/-- A signature with every marker, a default and both variadic parameters is exposed, and is legal. -/
theorem callables_isLegal_everyMarker :
    ∃ expansions, ofText "#[pyfunction(signature = (a, /, b, *c, d = 1, **e))] fn f(a: A, b: B, c: C, d: D, e: E);" =
      .ok expansions ∧ expansions.length = 1 ∧
        ∀ expansion ∈ expansions, ∀ callable ∈ expansion.descriptor.callables, callable.IsLegal := by
  have counted : (ofText
      "#[pyfunction(signature = (a, /, b, *c, d = 1, **e))] fn f(a: A, b: B, c: C, d: D, e: E);").toOption.map
        List.length = some 1 := by decide +kernel
  obtain ⟨expansions, accepted, length⟩ := Option.map_eq_some_iff.mp counted
  have run := Outcome.toOption_eq_some.mp accepted
  exact ⟨expansions, run, length, callables_isLegal run⟩

end Expansion

end Exposure
