import Exposure.Expansion
import Exposure.Proofs.Outcome

namespace Exposure

namespace FunctionItem

/-- A function is marked as the constructor of its type. -/
def isConstructor (function : FunctionItem) : Bool :=
  !(Attribute.withName "new" function.header.attributes).isEmpty

/-- The stub options of a function keep it out of the description of its block. -/
def IsSkipped (function : FunctionItem) : Prop :=
  ∃ stub, Options.ofAttributes .ofStubMethod "gen_stub" function.header.attributes [] = .ok stub ∧
    stub.has .skip = true

end FunctionItem

namespace CallableDescriptor

theorem dropFirstVisible_subset (parameters : List Parameter) : dropFirstVisible parameters ⊆ parameters := by
  induction parameters with
  | nil => exact fun _ member => member
  | cons first rest step =>
    rw [dropFirstVisible]
    split
    · exact List.cons_subset_cons first step
    · exact List.subset_cons_self first rest

theorem ownParameters_subset (function : FunctionItem) (kind : MethodKind) :
    ownParameters function kind ⊆ function.parameters := by
  unfold ownParameters
  split
  · exact fun _ member => List.mem_of_mem_tail member
  · split
    · exact dropFirstVisible_subset _
    · exact fun _ member => member

end CallableDescriptor

/-- Only the marker of a constructor makes a method one. -/
theorem MethodKind.ofFunction_constructor {function : FunctionItem} {kind : MethodKind}
    (classified : ofFunction function = .ok kind) : kind = .constructor ↔ function.isConstructor = true := by
  simp only [ofFunction, markers] at classified
  cases marked : function.isConstructor with
  | true =>
    have inside : !(Attribute.withName "new" function.header.attributes).isEmpty := marked
    rw [List.filter_cons_of_pos (by simpa using inside)] at classified
    split at classified
    · simp at *
    · rename_i alone
      simp only [List.cons.injEq, Prod.mk.injEq] at alone
      simp only [Except.ok.injEq] at classified
      simp [← classified, alone.1.2]
    · simp at classified
  | false =>
    have outside : ¬ (!(Attribute.withName "new" function.header.attributes).isEmpty) = true := by
      simpa [FunctionItem.isConstructor] using marked
    rw [List.filter_cons_of_neg (by simpa using outside)] at classified
    split at classified
    · simp only [Except.ok.injEq] at classified
      rw [← classified]
      split <;> simp
    · rename_i found alone
      have listed := List.mem_of_mem_filter (alone ▸ List.mem_singleton_self _)
      simp only [Except.ok.injEq] at classified
      rw [← classified]
      simp only [List.mem_cons, Prod.mk.injEq, List.not_mem_nil, or_false] at listed
      rcases listed with ⟨-, rfl⟩ | ⟨-, rfl⟩ | ⟨-, rfl⟩ | ⟨-, rfl⟩ | ⟨-, rfl⟩ <;> simp
    · simp at classified

namespace MethodsProgress

@[simp] theorem claim_methods {progress claimed : MethodsProgress} {name : String} {function : FunctionItem}
    (run : progress.claim name function = .ok claimed) : claimed.methods = progress.methods := by
  simp only [claim, report] at run
  split at run
  · simp at run
  · rw [← Except.ok.inj run]

@[simp] theorem noteProperty_methods {progress : MethodsProgress} {name : String} :
    (progress.noteProperty name).methods = progress.methods := by
  simp only [noteProperty]
  split <;> rfl

/-- A function of a known kind adds itself to the methods, or it is an accessor or a class attribute. -/
theorem readKind_methods {owner : String} {before after : MethodsProgress} {function : FunctionItem}
    {kind : MethodKind} (run : readKind owner before function kind = .ok after) :
    (after.methods = before.methods ∧ kind ≠ .constructor) ∨
      ∃ callable, CallableDescriptor.ofMethod owner kind function = .ok callable ∧
        after.methods = before.methods ++ [⟨kind, callable⟩] := by
  have plain (adds : ∃ callable, CallableDescriptor.ofMethod owner kind function = .ok callable ∧
      ∃ claimed, before.claim callable.name function = .ok claimed ∧
        { claimed with methods := claimed.methods ++ [⟨kind, callable⟩] } = after) :
      ∃ callable, CallableDescriptor.ofMethod owner kind function = .ok callable ∧
        after.methods = before.methods ++ [⟨kind, callable⟩] := by
    obtain ⟨callable, described, claimed, free, rfl⟩ := adds
    exact ⟨callable, described, by simp [claim_methods free]⟩
  cases kind with
  | getter =>
    simp only [readKind, Outcome.bind_eq_ok] at run
    obtain ⟨getter, -, run⟩ := run
    split at run
    · simp [report] at run
    · exact .inl ⟨by simp [← Outcome.pure_eq_ok.mp run], by simp⟩
  | setter =>
    simp only [readKind, Outcome.bind_eq_ok] at run
    obtain ⟨setter, -, run⟩ := run
    split at run
    · simp [report] at run
    · exact .inl ⟨by simp [← Outcome.pure_eq_ok.mp run], by simp⟩
  | classAttribute =>
    simp only [readKind, Outcome.bind_eq_ok] at run
    obtain ⟨options, -, claimed, free, doc, -, run⟩ := run
    exact .inl ⟨by simp [← Outcome.pure_eq_ok.mp run, claim_methods free], by simp⟩
  | ofInstance => exact .inr (plain (by simpa only [readKind, Outcome.bind_eq_ok, Outcome.pure_eq_ok] using run))
  | ofNothing => exact .inr (plain (by simpa only [readKind, Outcome.bind_eq_ok, Outcome.pure_eq_ok] using run))
  | ofClass => exact .inr (plain (by simpa only [readKind, Outcome.bind_eq_ok, Outcome.pure_eq_ok] using run))
  | constructor => exact .inr (plain (by simpa only [readKind, Outcome.bind_eq_ok, Outcome.pure_eq_ok] using run))

/-- Reading a function leaves the methods as they are, or adds that function under its kind. -/
theorem read_methods {owner : String} {before after : MethodsProgress} {function : FunctionItem}
    (run : read owner before function = .ok after) :
    (after.methods = before.methods ∧ (function.IsSkipped ∨ function.isConstructor = false)) ∨
      ∃ kind callable, ¬ function.IsSkipped ∧ MethodKind.ofFunction function = .ok kind ∧
        CallableDescriptor.ofMethod owner kind function = .ok callable ∧
        after.methods = before.methods ++ [⟨kind, callable⟩] := by
  simp only [read, Outcome.bind_eq_ok] at run
  obtain ⟨stub, options, run⟩ := run
  split at run
  · rename_i skipped
    exact .inl ⟨by rw [← Outcome.pure_eq_ok.mp run], .inl ⟨stub, options, skipped⟩⟩
  · rename_i kept
    have unskipped : ¬ function.IsSkipped := by
      rintro ⟨other, same, skipped⟩
      rw [options] at same
      exact kept (Except.ok.inj same ▸ skipped)
    simp only [Outcome.bind_eq_ok] at run
    obtain ⟨kind, classified, run⟩ := run
    rcases readKind_methods run with ⟨same, other⟩ | ⟨callable, described, added⟩
    · refine .inl ⟨same, .inr ?_⟩
      simpa [other] using MethodKind.ofFunction_constructor classified
    · exact .inr ⟨kind, callable, unskipped, classified, described, added⟩

end MethodsProgress

/-- A block of methods implements no trait, and its functions are read in order. -/
theorem MethodsDescriptor.ofImpl_eq_ok {block : ImplItem} {descriptor : MethodsDescriptor}
    (run : ofImpl block = .ok descriptor) :
    descriptor.targetIdentity = block.targetName ∧ ∃ progress,
      block.functions.foldlM (MethodsProgress.read block.targetName) .start = .ok progress ∧
        descriptor.methods = progress.methods := by
  simp only [ofImpl] at run
  split at run
  · simp at run
  · simp only [Outcome.bind_eq_ok, Outcome.pure_eq_ok] at run
    obtain ⟨progress, read, properties, -, rfl⟩ := run
    exact ⟨rfl, progress, read, rfl⟩

namespace FunctionDescriptor

variable {item : FunctionItem} {options : Options} {descriptor : FunctionDescriptor}

theorem ofDeclaration_eq_ok_iff {given : Option (List SignatureEntry)} :
    ofDeclaration item given = .ok descriptor ↔
      ∃ own, CallableDescriptor.optionsOf item = .ok own ∧ (given.isSome && own.signature.isSome) = false ∧
        ∃ signature, Signature.analyze
            (if own.has .passModule then CallableDescriptor.dropFirstVisible item.parameters else item.parameters)
            { own with signature := given.or own.signature } none = .ok signature ∧
          ∃ doc, Documentation.ofAttributes item.header.attributes = .ok doc ∧
            ⟨⟨own.nameOr item.name, signature.parameters, CallableDescriptor.returnSignature none item, doc,
              signature.shape⟩, none, item.name⟩ = descriptor := by
  simp only [ofDeclaration, Outcome.bind_eq_ok]
  refine exists_congr fun own => and_congr_right fun _ => ?_
  cases given.isSome && own.signature.isSome with
  | true => simp only [if_true, reportRepeated, Outcome.report_ne_ok, Bool.true_eq_false, false_and]
  | false =>
    simp only [Bool.false_eq_true, if_false, Outcome.bind_eq_ok, Outcome.pure_eq_ok, true_and]
    rfl

/-- What the description of a function is made of: the options beside its tag, which repeat neither the name nor the
signature of the tag, the analysed parameters, and the documentation. -/
theorem ofFunction_eq_ok_iff :
    ofFunction item options = .ok descriptor ↔
      ∃ own, CallableDescriptor.optionsOf item = .ok own ∧ (options.name.isSome && own.name.isSome) = false ∧
        (options.signature.isSome && own.signature.isSome) = false ∧ ∃ signature, Signature.analyze
            (if own.has .passModule then CallableDescriptor.dropFirstVisible item.parameters else item.parameters)
            { own with signature := options.signature.or own.signature } none = .ok signature ∧
          ∃ doc, Documentation.ofAttributes item.header.attributes = .ok doc ∧
            ⟨⟨options.name.getD (own.nameOr item.name), signature.parameters,
              CallableDescriptor.returnSignature none item, doc, signature.shape⟩, options.module, item.name⟩ =
              descriptor := by
  simp only [ofFunction, Outcome.bind_eq_ok]
  refine exists_congr fun own => and_congr_right fun ofOwn => ?_
  cases options.name.isSome && own.name.isSome with
  | true => simp only [if_true, reportRepeated, Outcome.report_ne_ok, Bool.true_eq_false, false_and]
  | false =>
    simp only [Bool.false_eq_true, if_false, Outcome.bind_eq_ok, Outcome.pure_eq_ok, true_and, ofDeclaration_eq_ok_iff,
      ofOwn, Except.ok.injEq, exists_eq_left']
    constructor
    · rintro ⟨_, ⟨unsigned, signature, analysed, doc, documented, rfl⟩, rfl⟩
      exact ⟨unsigned, signature, analysed, doc, documented, by simp [override]⟩
    · rintro ⟨unsigned, signature, analysed, doc, documented, rfl⟩
      refine ⟨_, ⟨unsigned, signature, analysed, doc, documented, rfl⟩, ?_⟩
      simp [override]

end FunctionDescriptor

namespace Expansion

/-- The tag of an item is one of its attributes, under one of the three names. -/
theorem tag?_eq_some {item : Item} {tag : Attribute} (run : tag? item = .ok (some tag)) :
    item.attributes.filter (fun attr => tags.contains attr.name) = [tag] := by
  simp only [tag?] at run
  split at run
  · simp at run
  · rename_i only alone
    rw [alone]
    simpa using run
  · simp at run

theorem tag?_eq_none {item : Item} (run : tag? item = .ok none) :
    item.attributes.filter (fun attr => tags.contains attr.name) = [] := by
  simp only [tag?] at run
  split at run
  · assumption
  · simp at run
  · simp at run

theorem functionsFor_cons (first : Item) (rest : List Item) (name : String) :
    functionsFor (first :: rest) name = functionsFor [first] name ++ functionsFor rest name :=
  @List.flatMap_append _ _ [first] rest _

/-- The tag of a class or an enumeration gives its options, with further attributes. -/
def HasClassOptions (item : Item) (options : Options) : Prop :=
  ∃ tag, tag? item = .ok (some tag) ∧
    Options.ofAttributes .ofClass "pyo3" item.attributes [tag.arguments] = .ok options

/-- The tag of a function gives some of its options. -/
def HasFunctionOptions (item : Item) (options : Options) : Prop :=
  ∃ tag, tag? item = .ok (some tag) ∧ Options.ofLists .ofFunctionTag [tag.arguments] = .ok options

/-- What an item is described by decides what kind of item it is, and which part of it was described. -/
inductive Describes (associated : List FunctionItem) : Item → Descriptor → Prop
  | ofStruct {declared options descriptor} (described : ClassDescriptor.ofStruct declared options associated =
      .ok descriptor) (given : HasClassOptions (.structItem declared) options) :
      Describes associated (.structItem declared) (.ofClass descriptor)
  | ofEnum {declared options descriptor} (described : EnumDescriptor.ofEnum declared options = .ok descriptor)
      (given : HasClassOptions (.enumItem declared) options) :
      Describes associated (.enumItem declared) (.ofEnum descriptor)
  | ofImpl {item block descriptor} (isBlock : Item.impl? item = some block)
      (tagged : ∃ tag ∈ item.attributes, tag.name = "pymethods")
      (described : MethodsDescriptor.ofImpl block = .ok descriptor) : Describes associated item (.ofMethods descriptor)
  | ofFunction {item function options descriptor} (isFunction : Item.function? item = some function)
      (described : FunctionDescriptor.ofFunction function options = .ok descriptor)
      (given : HasFunctionOptions item options) : Describes associated item (.ofFunction descriptor)

theorem describes_of_describe {associated : List FunctionItem} {item : Item} {descriptor : Descriptor}
    (run : describe? associated item = .ok (some descriptor)) : Describes associated item descriptor := by
  simp only [describe?, Outcome.bind_eq_ok] at run
  obtain ⟨found, tagged, run⟩ := run
  cases found with
  | none => simp at run
  | some tag =>
    have listed : tag ∈ item.attributes := List.mem_of_mem_filter (tag?_eq_some tagged ▸ List.mem_singleton_self _)
    simp only at run
    split at run
    · simp only [ofClassTag, Outcome.map_eq_ok, Outcome.bind_eq_ok, Option.some.injEq] at run
      obtain ⟨_, ⟨options, given, run⟩, rfl⟩ := run
      split at run
      · simp only [Outcome.map_eq_ok] at run
        obtain ⟨_, described, rfl⟩ := run
        exact .ofStruct described ⟨tag, tagged, given⟩
      · simp only [Outcome.map_eq_ok] at run
        obtain ⟨_, described, rfl⟩ := run
        exact .ofEnum described ⟨tag, tagged, given⟩
      · simp [reportMisplaced] at run
    · split at run
      · rename_i isMethods
        simp only [ofMethodsTag, Outcome.map_eq_ok, Outcome.bind_eq_ok, Option.some.injEq] at run
        obtain ⟨_, ⟨options, -, run⟩, rfl⟩ := run
        split at run
        · simp only [Outcome.map_eq_ok] at run
          obtain ⟨_, described, rfl⟩ := run
          exact .ofImpl ‹_› ⟨tag, listed, isMethods⟩ described
        · simp [reportMisplaced] at run
      · simp only [ofFunctionTag, Outcome.map_eq_ok, Outcome.bind_eq_ok, Option.some.injEq] at run
        obtain ⟨_, ⟨options, given, run⟩, rfl⟩ := run
        split at run
        · simp only [Outcome.map_eq_ok] at run
          obtain ⟨_, described, rfl⟩ := run
          exact .ofFunction ‹_› described ⟨tag, tagged, given⟩
        · simp [reportMisplaced] at run

/-- A block under the tag of blocks is described, as its only tag asks. -/
theorem describe_block {associated : List FunctionItem} {item : Item} {block : ImplItem} {found : Option Descriptor}
    (isBlock : item.impl? = some block) (tagged : ∃ tag ∈ item.attributes, tag.name = "pymethods")
    (run : describe? associated item = .ok found) :
    ∃ descriptor, found = some (.ofMethods descriptor) ∧ MethodsDescriptor.ofImpl block = .ok descriptor := by
  obtain ⟨marker, listed, named⟩ := tagged
  have kept : marker ∈ item.attributes.filter fun attr => tags.contains attr.name :=
    List.mem_filter.mpr ⟨listed, by simp [named, tags]⟩
  simp only [describe?, Outcome.bind_eq_ok] at run
  obtain ⟨tag?, tagged, run⟩ := run
  cases tag? with
  | none =>
    rw [tag?_eq_none tagged] at kept
    cases kept
  | some tag =>
    rw [tag?_eq_some tagged, List.mem_singleton] at kept
    subst kept
    simp only [named, String.reduceEq, if_false, if_true, ofMethodsTag, Outcome.map_eq_ok, Outcome.bind_eq_ok,
      isBlock] at run
    obtain ⟨_, ⟨options, -, descriptor, described, rfl⟩, rfl⟩ := run
    exact ⟨descriptor, rfl, described⟩

theorem ofItem?_eq_ok {text : String} {items : List Item} {item : Item} {found : Option Expansion} :
    ofItem? text items item = .ok found ↔ ∃ described, describe? (associated items item) item = .ok described ∧
      described.map (fun descriptor => ⟨item, descriptor, item.source text⟩) = found := by
  simp only [ofItem?, Outcome.bind_eq_ok, Outcome.pure_eq_ok]

/-- The expansions of a list are those of its exposed items, in the same order. -/
theorem ofItems_eq_ok {text : String} {items : List Item} {expansions : List Expansion} :
    ofItems text items = .ok expansions ↔
      ∃ found, List.Forall₂ (fun item maybe => ofItem? text items item = .ok maybe) items found ∧
        found.filterMap id = expansions := by
  simp only [ofItems, Outcome.bind_eq_ok, Outcome.pure_eq_ok, Outcome.mapM_eq_ok_iff]

/-- Every expansion is that of an item of the text. -/
theorem exists_item_of_mem {text : String} {items : List Item} {expansions : List Expansion}
    (run : ofItems text items = .ok expansions) {expansion : Expansion} (member : expansion ∈ expansions) :
    expansion.item ∈ items ∧
      describe? (associated items expansion.item) expansion.item = .ok (some expansion.descriptor) ∧
      expansion.source = expansion.item.source text := by
  simp only [ofItems, Outcome.bind_eq_ok, Outcome.pure_eq_ok] at run
  obtain ⟨found, each, rfl⟩ := run
  obtain ⟨maybe, inside, rfl⟩ := List.mem_filterMap.mp member
  obtain ⟨item, listed, step⟩ := Outcome.exists_of_mem_mapM each inside
  obtain ⟨described, ran, made⟩ := ofItem?_eq_ok.mp step
  obtain ⟨descriptor, rfl, rfl⟩ := Option.map_eq_some_iff.mp made
  exact ⟨listed, ran, rfl⟩

end Expansion

end Exposure
