import Exposure.Proofs.Session

/-!
# The order of registration

A list of descriptors is registered at once. The call succeeds exactly when no identity occurs twice in the list, which does
not depend on the order of the list, and then the catalog is the one that the descriptors build
(`Catalog.registerAll_of_distinct`). Its answers are a matter of the registered descriptors (`Catalog.Answers`), and so two
orders of one list give answers that differ in their order at most (`Catalog.Answers.perm`).
-/

namespace Exposure

namespace Descriptor

/-- The source identity of a class or an enumeration. -/
def sourceIdentity? : Descriptor → Option String
  | ofClass item => some item.sourceIdentity
  | ofEnum item => some item.sourceIdentity
  | _ => none

/-- The module and the name of a function. -/
def functionKey? : Descriptor → Option (Option String × String)
  | ofFunction item => some (item.module, item.callable.name)
  | _ => none

/-- The identities of descriptors are distinct when those of the types are and those of the functions are. -/
theorem nodup_identities_iff (descriptors : List Descriptor) : (descriptors.filterMap identity?).Nodup ↔
    (descriptors.filterMap sourceIdentity?).Nodup ∧ (descriptors.filterMap functionKey?).Nodup := by
  have ofType (name : String) (rest : List Descriptor) :
      .ofType name ∈ rest.filterMap identity? ↔ name ∈ rest.filterMap sourceIdentity? := by
    simp only [List.mem_filterMap]
    refine exists_congr fun descriptor => and_congr_right fun _ => ?_
    cases descriptor <;> simp [identity?, sourceIdentity?]
  have ofFunction (key : Option String × String) (rest : List Descriptor) :
      .ofFunction key.1 key.2 ∈ rest.filterMap identity? ↔ key ∈ rest.filterMap functionKey? := by
    simp only [List.mem_filterMap]
    refine exists_congr fun descriptor => and_congr_right fun _ => ?_
    cases descriptor <;> simp [identity?, functionKey?, Prod.ext_iff]
  induction descriptors with
  | nil => simp
  | cons first rest step =>
    cases first with
    | ofMethods block => exact step
    | ofFunction item =>
      have fresh := ofFunction (item.module, item.callable.name) rest
      simp only [List.filterMap_cons, identity?, sourceIdentity?, functionKey?, List.nodup_cons, fresh, step]
      exact and_left_comm
    | ofClass item | ofEnum item =>
      have fresh := ofType item.sourceIdentity rest
      simp only [List.filterMap_cons, identity?, sourceIdentity?, functionKey?, List.nodup_cons, fresh, step]
      exact and_assoc.symm

end Descriptor

namespace Catalog

variable {descriptors others : List Descriptor}

/-- A call succeeds exactly when no identity is in use already or occurs twice. -/
theorem registerAll_succeeds_iff {catalog : Catalog} (distinct : catalog.identities.Nodup) :
    (catalog.registerAll (descriptors.map .ofDescriptor)).2 = none ↔
      (catalog.identities ++ descriptors.filterMap Descriptor.identity?).Nodup := by
  induction descriptors generalizing catalog with
  | nil => simpa [registerAll] using distinct
  | cons first rest step =>
    rw [List.map_cons, registerAll]
    obtain ⟨_, ⟨⟩, -⟩ | ⟨_, identity, ⟨⟩, known, used, run⟩ | ⟨_, ⟨⟩, fresh, run⟩ :=
      catalog.register_cases (.ofDescriptor first)
    · have twice : ¬ (catalog.identities ++ identity :: rest.filterMap Descriptor.identity?).Nodup := by
        intro apart
        exact List.disjoint_of_nodup_append apart used List.mem_cons_self
      simpa [run, known] using twice
    · have entered : (catalog.enter first).identities.Nodup := by
        rw [(catalog.identities_enter first).nodup_iff]
        cases known : first.identity? with
        | none => simpa using distinct
        | some identity => exact List.nodup_append_comm.mp (List.nodup_cons.mpr ⟨fresh identity known, distinct⟩)
      have moved := (catalog.identities_enter first).append_right (rest.filterMap Descriptor.identity?)
      simp only [run, step entered, moved.nodup_iff, List.append_assoc, List.filterMap_cons]
      cases first.identity? <;> rfl

/-- A call that succeeds enters every descriptor behind the others. -/
theorem registerAll_of_succeeds {catalog : Catalog}
    (succeeds : (catalog.registerAll (descriptors.map .ofDescriptor)).2 = none) :
    (catalog.registerAll (descriptors.map .ofDescriptor)).1 = descriptors.foldl enter catalog := by
  induction descriptors generalizing catalog with
  | nil => rfl
  | cons first rest step =>
    rw [List.map_cons, registerAll] at succeeds ⊢
    obtain ⟨_, ⟨⟩, -⟩ | ⟨_, identity, ⟨⟩, -, -, run⟩ | ⟨_, ⟨⟩, -, run⟩ := catalog.register_cases (.ofDescriptor first)
    · simp [run] at succeeds
    · rw [run] at succeeds ⊢
      exact step succeeds

/-- On the catalog without descriptors a call succeeds exactly when the descriptors have distinct identities. -/
theorem registerAll_empty_succeeds_iff : (empty.registerAll (descriptors.map .ofDescriptor)).2 = none ↔
    (descriptors.filterMap Descriptor.identity?).Nodup := by
  have unused : empty.identities.Nodup := List.nodup_nil
  exact registerAll_succeeds_iff unused

/-- Descriptors with distinct identities are registered on the catalog without descriptors, and it answers with them. -/
theorem registerAll_of_distinct (distinct : (descriptors.filterMap Descriptor.identity?).Nodup) :
    (empty.registerAll (descriptors.map .ofDescriptor)).2 = none ∧
      (empty.registerAll (descriptors.map .ofDescriptor)).1.Answers descriptors := by
  have succeeds := registerAll_empty_succeeds_iff.mpr distinct
  refine ⟨succeeds, ?_⟩
  rw [registerAll_of_succeeds succeeds]
  exact answers_foldl_enter distinct

/-- Catalogs that answer with the same descriptors in two orders give the same answers up to order. -/
theorem Answers.perm {one two : Catalog} (answers : one.Answers descriptors) (answers' : two.Answers others)
    (same : descriptors.Perm others) :
    one.modules.Perm two.modules ∧ (∀ module, (one.typesIn module).Perm (two.typesIn module)) ∧
      (∀ module, (one.functionsIn module).Perm (two.functionsIn module)) ∧
      ∀ target, (one.methodsOf target).Perm (two.methodsOf target) := by
  have types (module : Option String) : (one.typesIn module).Perm (two.typesIn module) := by
    rw [List.perm_iff_count]
    intro entry
    simp only [answers.types, answers'.types, same.mem_iff]
  have functions (module : Option String) : (one.functionsIn module).Perm (two.functionsIn module) := by
    rw [List.perm_iff_count]
    intro function
    simp only [answers.functions, answers'.functions, same.mem_iff]
  refine ⟨?_, types, functions, fun target => ?_⟩
  · rw [List.perm_ext_iff_of_nodup answers.modulesOnce answers'.modulesOnce]
    intro module
    rw [answers.modules, answers'.modules]
    simp only [← List.length_pos_iff, (types module).length_eq, (functions module).length_eq]
  · rw [answers.methods, answers'.methods]
    exact same.filterMap _

/-- For every list of descriptors and every order of it: on the catalog without descriptors both lists are registered or
both are refused; they are registered exactly when the source identities of the classes and enumerations are distinct and
so are the modules and names of the functions; and then the two catalogs list the same modules, each once, and give the
same types, functions and blocks of methods up to their order. -/
theorem registerAll_perm (same : descriptors.Perm others) :
    let one := empty.registerAll (descriptors.map .ofDescriptor)
    let two := empty.registerAll (others.map .ofDescriptor)
    (one.2 = none ↔ two.2 = none) ∧
    (one.2 = none ↔
      (descriptors.filterMap Descriptor.sourceIdentity?).Nodup ∧ (descriptors.filterMap Descriptor.functionKey?).Nodup) ∧
    (one.2 = none →
      (one.1.modules.Nodup ∧ one.1.modules.Perm two.1.modules) ∧
      (∀ module, (one.1.typesIn module).Perm (two.1.typesIn module)) ∧
      (∀ module, (one.1.functionsIn module).Perm (two.1.functionsIn module)) ∧
      ∀ target, (one.1.methodsOf target).Perm (two.1.methodsOf target)) := by
  intro one two
  have ofOne : one.2 = none ↔ (descriptors.filterMap Descriptor.identity?).Nodup := registerAll_empty_succeeds_iff
  have ofTwo : two.2 = none ↔ (others.filterMap Descriptor.identity?).Nodup := registerAll_empty_succeeds_iff
  have both := (same.filterMap Descriptor.identity?).nodup_iff
  refine ⟨by rw [ofOne, ofTwo, both], by rw [ofOne, Descriptor.nodup_identities_iff], fun succeeds => ?_⟩
  have distinct := ofOne.mp succeeds
  have answers := (registerAll_of_distinct distinct).2
  have answers' := (registerAll_of_distinct (both.mp distinct)).2
  obtain ⟨modules, others⟩ := answers.perm answers' same
  exact ⟨⟨answers.modulesOnce, modules⟩, others⟩

/-- A class of a module, a function that shares its name, and two blocks of its methods. -/
def sample : List Descriptor :=
  [.ofClass ⟨"A", some "m", [], none, "", "A", none, []⟩, .ofMethods ⟨"A", [], [], []⟩,
    .ofFunction ⟨⟨"A", [], "None", "", .noArguments⟩, none, "a"⟩, .ofMethods ⟨"A", [], [⟨"x", "int", true, false, ""⟩], []⟩]

/-- The sample is registered forwards and backwards, with the blocks in both orders. -/
theorem registerAll_perm_backwards : sample.Perm sample.reverse ∧
    (empty.registerAll (sample.map .ofDescriptor)).2 = none ∧
    (empty.registerAll (sample.reverse.map .ofDescriptor)).2 = none ∧
    ((empty.registerAll (sample.map .ofDescriptor)).1.methodsOf "A").Perm
      ((empty.registerAll (sample.reverse.map .ofDescriptor)).1.methodsOf "A") ∧
    (empty.registerAll (sample.map .ofDescriptor)).1.methodsOf "A" ≠
      (empty.registerAll (sample.reverse.map .ofDescriptor)).1.methodsOf "A" := by
  have same : sample.Perm sample.reverse := (List.reverse_perm sample).symm
  obtain ⟨both, -, answers⟩ := registerAll_perm same
  have registered : (empty.registerAll (sample.map .ofDescriptor)).2 = none := by decide
  exact ⟨same, registered, both.mp registered, (answers registered).2.2.2 "A", by decide⟩

end Catalog

end Exposure
