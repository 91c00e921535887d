import Exposure.Proofs.ParameterList

namespace Exposure

namespace MethodsDescriptor

/-- The constructors among the methods of a block. -/
def constructors (block : MethodsDescriptor) : List CallableDescriptor :=
  (block.methods.filter fun method => method.kind = .constructor).map (·.callable)

end MethodsDescriptor

/-- The constructors in the described blocks of a type. -/
def Expansion.blockConstructors (expansions : List Expansion) (identity : String) : List CallableDescriptor :=
  expansions.flatMap fun expansion =>
    match expansion.descriptor with
    | .ofMethods block => if block.targetIdentity = identity then block.constructors else []
    | _ => []

/-- A block of functions has the header of its item. -/
theorem Item.header_of_impl {item : Item} {block : ImplItem} (isBlock : item.impl? = some block) :
    block.header = item.header := by
  cases item <;> simp_all [impl?, header]
  rw [← isBlock]

namespace FunctionItem

/-- What a function adds to the constructors of the block that describes it. -/
inductive Constructs (owner : String) (function : FunctionItem) : List CallableDescriptor → Prop
  | nothing (passed : function.IsSkipped ∨ function.isConstructor = false) : Constructs owner function []
  | itself {callable} (kept : ¬ function.IsSkipped) (marked : function.isConstructor = true)
      (described : CallableDescriptor.ofMethod owner .constructor function = .ok callable) :
      Constructs owner function [callable]

/-- A function without the marker adds no constructor. -/
theorem Constructs.eq_nil {owner : String} {function : FunctionItem} {added : List CallableDescriptor}
    (constructs : function.Constructs owner added) (plain : function.isConstructor = false) : added = [] := by
  cases constructs with
  | nothing _ => rfl
  | itself _ marked _ => simp [plain] at marked

/-- A marked function adds the constructor that it is, exactly when it is not skipped. -/
theorem Constructs.eq_singleton_iff {owner : String} {function : FunctionItem} {added : List CallableDescriptor}
    {callable : CallableDescriptor} (constructs : function.Constructs owner added)
    (marked : function.isConstructor = true)
    (described : CallableDescriptor.ofMethod owner .constructor function = .ok callable) :
    added = [callable] ↔ ¬ function.IsSkipped := by
  cases constructs with
  | nothing passed => simpa [marked] using passed
  | itself kept _ same =>
    rw [described] at same
    simp [Except.ok.inj same, kept]

end FunctionItem

namespace MethodsProgress

/-- The constructors among the methods that have been read. -/
def constructors (progress : MethodsProgress) : List CallableDescriptor :=
  (progress.methods.filter fun method => method.kind = .constructor).map (·.callable)

/-- One function adds a constructor or nothing. -/
theorem read_constructors {owner : String} {before after : MethodsProgress} {function : FunctionItem}
    (run : read owner before function = .ok after) :
    ∃ added, function.Constructs owner added ∧ after.constructors = before.constructors ++ added := by
  rcases read_methods run with ⟨same, passed⟩ | ⟨kind, callable, kept, classified, described, added⟩
  · exact ⟨[], .nothing passed, by simp [constructors, same]⟩
  · have marked := MethodKind.ofFunction_constructor classified
    by_cases isConstructor : kind = .constructor
    · subst isConstructor
      exact ⟨[callable], .itself kept (marked.mp rfl) described, by simp [constructors, added]⟩
    · refine ⟨[], .nothing (.inr ?_), by simp [constructors, added, isConstructor]⟩
      simpa [isConstructor] using marked

/-- A run over functions adds what each of them adds, in order. -/
theorem foldlM_read_constructors {owner : String} {functions : List FunctionItem} {before after : MethodsProgress}
    (run : functions.foldlM (read owner) before = .ok after) :
    ∃ parts, List.Forall₂ (FunctionItem.Constructs owner) functions parts ∧
      after.constructors = before.constructors ++ parts.flatten := by
  induction functions generalizing before with
  | nil =>
    simp only [List.foldlM_nil, Outcome.pure_eq_ok] at run
    exact ⟨[], .nil, by simp [run]⟩
  | cons first rest ih =>
    simp only [List.foldlM_cons, Outcome.bind_eq_ok] at run
    obtain ⟨middle, step, others⟩ := run
    obtain ⟨added, constructs, one⟩ := read_constructors step
    obtain ⟨parts, each, all⟩ := ih others
    exact ⟨added :: parts, .cons constructs each, by simp [all, one]⟩

end MethodsProgress

/-- The constructors of a block are what its functions add, in order. -/
theorem MethodsDescriptor.constructors_of_ofImpl {block : ImplItem} {descriptor : MethodsDescriptor}
    (run : ofImpl block = .ok descriptor) :
    ∃ parts, List.Forall₂ (FunctionItem.Constructs block.targetName) block.functions parts ∧
      descriptor.constructors = parts.flatten := by
  obtain ⟨-, progress, read, same⟩ := ofImpl_eq_ok run
  obtain ⟨parts, each, all⟩ := MethodsProgress.foldlM_read_constructors read
  exact ⟨parts, each, by simpa [constructors, MethodsProgress.constructors, MethodsProgress.start, same] using all⟩

namespace Expansion

/-- An item is a block for a type under the tag of blocks. -/
def IsExposedBlock (identity : String) (item : Item) (block : ImplItem) : Prop :=
  item.impl? = some block ∧ block.targetName = identity ∧ ∃ tag ∈ item.attributes, tag.name = "pymethods"

theorem functionsFor_of_exposed {identity : String} {item : Item} {block : ImplItem}
    (exposed : IsExposedBlock identity item block) : functionsFor [item] identity = block.functions := by
  obtain ⟨isBlock, target, tag, listed, named⟩ := exposed
  have tagged : ∃ attr ∈ block.header.attributes, attr.name = "pymethods" :=
    ⟨tag, by rw [Item.header_of_impl isBlock]; exact listed, named⟩
  simp [functionsFor, isBlock, target, tagged]

theorem functionsFor_of_unexposed {identity : String} {item : Item}
    (unexposed : ¬ ∃ block, IsExposedBlock identity item block) : functionsFor [item] identity = [] := by
  cases isBlock : item.impl? with
  | none => simp [functionsFor, isBlock]
  | some block =>
    have untagged (target : block.targetName = identity) :
        ¬ ∃ attr ∈ block.header.attributes, attr.name = "pymethods" := by
      rw [Item.header_of_impl isBlock]
      exact fun tagged => unexposed ⟨block, isBlock, target, tagged⟩
    by_cases target : block.targetName = identity
    · simp [functionsFor, isBlock, target, untagged target]
    · simp [functionsFor, isBlock, target]

/-- What an item adds to the constructors of a type is what the functions that it has for that type add. -/
theorem constructors_of_item {text : String} {items : List Item} {item : Item} {found : Option Expansion}
    (run : ofItem? text items item = .ok found) (identity : String) :
    ∃ parts, List.Forall₂ (FunctionItem.Constructs identity) (functionsFor [item] identity) parts ∧
      blockConstructors found.toList identity = parts.flatten := by
  obtain ⟨described, step, rfl⟩ := ofItem?_eq_ok.mp run
  by_cases exposed : ∃ block, IsExposedBlock identity item block
  · obtain ⟨block, isExposed⟩ := exposed
    have ⟨isBlock, target, tagged⟩ := isExposed
    obtain ⟨descriptor, rfl, describedBlock⟩ := describe_block isBlock tagged step
    obtain ⟨parts, each, all⟩ := MethodsDescriptor.constructors_of_ofImpl describedBlock
    have sameTarget := (MethodsDescriptor.ofImpl_eq_ok describedBlock).1
    refine ⟨parts, ?_, by simp [blockConstructors, sameTarget, target, all]⟩
    rw [functionsFor_of_exposed isExposed]
    exact target ▸ each
  · refine ⟨[], functionsFor_of_unexposed exposed ▸ .nil, ?_⟩
    cases described with
    | none => rfl
    | some descriptor =>
      cases describes_of_describe step with
      | ofStruct => rfl
      | ofEnum => rfl
      | ofFunction => rfl
      | @ofImpl _ block methods isBlock tagged describedBlock =>
        have other : methods.targetIdentity ≠ identity := fun same =>
          exposed ⟨block, isBlock, (MethodsDescriptor.ofImpl_eq_ok describedBlock).1 ▸ same, tagged⟩
        simp [blockConstructors, other]

/-- The described blocks of a type construct it by what the functions for the type add, in source order. -/
theorem blockConstructors_of_items {text : String} {all items : List Item} {found : List (Option Expansion)}
    (run : List.Forall₂ (fun item maybe => ofItem? text all item = .ok maybe) items found) (identity : String) :
    ∃ parts, List.Forall₂ (FunctionItem.Constructs identity) (functionsFor items identity) parts ∧
      blockConstructors (found.filterMap id) identity = parts.flatten := by
  induction run with
  | nil => exact ⟨[], .nil, rfl⟩
  | @cons item maybe items found first _ ih =>
    obtain ⟨here, eachHere, allHere⟩ := constructors_of_item first identity
    obtain ⟨later, eachLater, allLater⟩ := ih
    refine ⟨here ++ later, functionsFor_cons item items identity ▸ List.rel_append eachHere eachLater, ?_⟩
    rw [List.flatten_append, ← allHere, ← allLater]
    cases maybe <;> simp [blockConstructors]

/-- Only the marked functions of a type add constructors. -/
theorem flatten_of_marked {identity : String} {functions : List FunctionItem}
    {parts : List (List CallableDescriptor)}
    (each : List.Forall₂ (FunctionItem.Constructs identity) functions parts) :
    ∃ marked, List.Forall₂ (FunctionItem.Constructs identity) (functions.filter (·.isConstructor)) marked ∧
      parts.flatten = marked.flatten := by
  induction each with
  | nil => exact ⟨[], .nil, rfl⟩
  | @cons function added functions parts first _ ih =>
    obtain ⟨marked, others, same⟩ := ih
    cases isMarked : function.isConstructor with
    | true => exact ⟨added :: marked, by simpa [isMarked] using ⟨first, others⟩, by simp [same]⟩
    | false => exact ⟨marked, by simpa [isMarked] using others, by simp [first.eq_nil isMarked, same]⟩

/-- The constructor of a class is the one constructor in the blocks of its type, or both are missing, exactly when the
stub options of the blocks skip no function that is marked as a constructor of the type. -/
theorem blockConstructors_eq_constructor_iff {text : String} {expansions : List Expansion}
    (run : ofText text = .ok expansions) {expansion : Expansion} (member : expansion ∈ expansions)
    {descriptor : ClassDescriptor} (isClass : expansion.descriptor = .ofClass descriptor) :
    ∃ items, parse text = .ok items ∧
      (blockConstructors expansions descriptor.sourceIdentity = descriptor.constructor.toList ↔
        ∀ function ∈ functionsFor (Item.flattenAll items) descriptor.sourceIdentity,
          function.isConstructor = true → ¬ function.IsSkipped) := by
  simp only [ofText, Outcome.bind_eq_ok] at run
  obtain ⟨items, parsed, run⟩ := run
  refine ⟨items, parsed, ?_⟩
  obtain ⟨-, step, -⟩ := exists_item_of_mem run member
  obtain ⟨found, each, rfl⟩ := ofItems_eq_ok.mp run
  rcases expansion with ⟨item, _, source⟩
  cases isClass
  cases describes_of_describe step with
  | @ofStruct declared _ _ described =>
    obtain ⟨identity, constructor⟩ := ClassDescriptor.constructor_of_ofStruct described
    obtain ⟨parts, adds, all⟩ := blockConstructors_of_items each declared.name
    obtain ⟨marked, constructs, same⟩ := flatten_of_marked adds
    rw [identity, all, same]
    change CallableDescriptor.ofConstructor? declared.name
      (functionsFor (Item.flattenAll items) declared.name) = _ at constructor
    simp only [CallableDescriptor.ofConstructor?] at constructor
    split at constructor
    · rename_i noneMarked
      change (functionsFor (Item.flattenAll items) declared.name).filter (·.isConstructor) = [] at noneMarked
      rw [noneMarked, List.forall₂_nil_left_iff] at constructs
      rw [constructs, ← Except.ok.inj constructor]
      have plain := List.filter_eq_nil_iff.mp noneMarked
      exact iff_of_true rfl fun function listed isMarked => absurd isMarked (plain function listed)
    · rename_i only oneMarked
      change (functionsFor (Item.flattenAll items) declared.name).filter (·.isConstructor) = [only] at oneMarked
      rw [oneMarked] at constructs
      obtain ⟨added, _, one, last, rfl⟩ := List.forall₂_cons_left_iff.mp constructs
      rw [List.forall₂_nil_left_iff] at last
      obtain ⟨callable, compiled, made⟩ := Outcome.map_eq_ok.mp constructor
      have isMarked : only.isConstructor = true := by
        have listed := oneMarked ▸ List.mem_singleton_self only
        exact (List.mem_filter.mp listed).2
      rw [last, ← made]
      simp only [List.flatten_cons, List.flatten_nil, List.append_nil, Option.toList_some]
      rw [one.eq_singleton_iff isMarked compiled]
      constructor
      · intro kept function listed marked
        have inside : function ∈ [only] := oneMarked ▸ List.mem_filter.mpr ⟨listed, marked⟩
        exact List.mem_singleton.mp inside ▸ kept
      · intro kept
        have listed := oneMarked ▸ List.mem_singleton_self only
        exact kept only (List.mem_filter.mp listed).1 isMarked
    · simp at constructor

/-- A check that some class of an accepted text passes is passed by a class in its expansions. -/
theorem exists_class_of_check (text : String) (check : List Expansion → ClassDescriptor → Bool)
    (passed : (ofText text).toOption.any (fun expansions => expansions.any fun expansion =>
      match expansion.descriptor with
      | .ofClass descriptor => check expansions descriptor
      | _ => false) = true) :
    ∃ expansions, ofText text = .ok expansions ∧ ∃ expansion ∈ expansions, ∃ descriptor,
      expansion.descriptor = .ofClass descriptor ∧ check expansions descriptor = true := by
  obtain ⟨expansions, accepted, passed⟩ := (Option.any_eq_true _ _).mp passed
  obtain ⟨expansion, member, passed⟩ := List.any_eq_true.mp passed
  refine ⟨expansions, Outcome.toOption_eq_some.mp accepted, expansion, member, ?_⟩
  split at passed
  · exact ⟨_, ‹_›, passed⟩
  · cases passed

/-- A type with two blocks has the constructor of its second block, as its class does. -/
theorem blockConstructors_eq_constructor_iff_twoBlocks :
    ∃ expansions, ofText ("#[pyclass] struct A; #[pymethods] impl A \x7b #[gen_stub(skip)] fn b(); \x7d " ++
        "#[pymethods] impl A \x7b #[new] fn c() -> Self; \x7d") = .ok expansions ∧
      ∃ expansion ∈ expansions, ∃ descriptor, expansion.descriptor = .ofClass descriptor ∧
        descriptor.constructor.isSome = true ∧
        ∃ items, parse ("#[pyclass] struct A; #[pymethods] impl A \x7b #[gen_stub(skip)] fn b(); \x7d " ++
            "#[pymethods] impl A \x7b #[new] fn c() -> Self; \x7d") = .ok items ∧
          (blockConstructors expansions descriptor.sourceIdentity = descriptor.constructor.toList ↔
            ∀ function ∈ functionsFor (Item.flattenAll items) descriptor.sourceIdentity,
              function.isConstructor = true → ¬ function.IsSkipped) := by
  obtain ⟨expansions, run, expansion, member, descriptor, isClass, hasConstructor⟩ :=
    exists_class_of_check ("#[pyclass] struct A; #[pymethods] impl A \x7b #[gen_stub(skip)] fn b(); \x7d " ++
        "#[pymethods] impl A \x7b #[new] fn c() -> Self; \x7d")
      (fun _ descriptor => descriptor.constructor.isSome) (by decide +kernel)
  exact ⟨expansions, run, expansion, member, descriptor, isClass, hasConstructor,
    blockConstructors_eq_constructor_iff run member isClass⟩

/-- A class has a constructor that is missing in the only block of its type, whose stub options skip it. -/
theorem constructor_of_skipped_function :
    ∃ expansions, ofText
        "#[pyclass] struct A; #[pymethods] impl A \x7b #[new] #[gen_stub(skip)] fn b() -> Self; \x7d" =
          .ok expansions ∧
      ∃ expansion ∈ expansions, ∃ descriptor, expansion.descriptor = .ofClass descriptor ∧
        descriptor.constructor ≠ none ∧ blockConstructors expansions descriptor.sourceIdentity = [] := by
  obtain ⟨expansions, run, expansion, member, descriptor, isClass, both⟩ :=
    exists_class_of_check
      ("#[pyclass] struct A; #[pymethods] impl A \x7b #[new] #[gen_stub(skip)] fn b() -> Self; \x7d")
      (fun expansions descriptor =>
        descriptor.constructor.isSome && (blockConstructors expansions descriptor.sourceIdentity).isEmpty)
      (by decide +kernel)
  obtain ⟨present, missing⟩ := Bool.and_eq_true_iff.mp both
  exact ⟨expansions, run, expansion, member, descriptor, isClass, Option.isSome_iff_ne_none.mp present,
    List.isEmpty_iff.mp missing⟩

end Expansion

end Exposure
