import Exposure.Catalog
import Mathlib.Data.List.Count
import Mathlib.Data.List.Nodup

/-!
# Sessions with a catalog

A session is a sequence of calls, each with offers that are registered at once. Every offer that is tried leaves an
attempt: the catalog that it meets, the catalog behind it and its refusal, if it is refused. One attempt either leaves the
catalog as it is or enters one descriptor whose identity is not in use (`Catalog.register_cases`), so that a session ends
in the catalog that its registered descriptors build, entered one behind the other (`Catalog.behind_session`). What the
tables hold, and with them the answer of every query, is then a matter of that list.
-/

namespace Exposure

namespace Descriptor

/-- The identity of a descriptor; a type may have any number of blocks of methods. -/
def identity? : Descriptor → Option Identity
  | ofClass item => some (.ofType item.sourceIdentity)
  | ofEnum item => some (.ofType item.sourceIdentity)
  | ofMethods _ => none
  | ofFunction item => some (.ofFunction item.module item.callable.name)

/-- The entry of a class or an enumeration in the table of types. -/
def typeRow? : Descriptor → Option (String × Descriptor)
  | ofClass item => some (item.sourceIdentity, .ofClass item)
  | ofEnum item => some (item.sourceIdentity, .ofEnum item)
  | _ => none

/-- The entry of a function in the table of functions. -/
def functionRow? : Descriptor → Option ((Option String × String) × FunctionDescriptor)
  | ofFunction item => some ((item.module, item.callable.name), item)
  | _ => none

/-- The block of methods of a target. -/
def blockOf? (target : String) : Descriptor → Option MethodsDescriptor
  | ofMethods block => if block.targetIdentity = target then some block else none
  | _ => none

/-- A class or an enumeration. -/
def isType (descriptor : Descriptor) : Bool := descriptor.typeRow?.isSome

end Descriptor

/-- An offer that was tried: the catalog that it met, the catalog behind it, and why it was refused, if it was. -/
structure Attempt where
  before : Catalog
  offer : Offer
  behind : Catalog
  refusal : Option Refusal

namespace Attempt

/-- The descriptor that an attempt registers. -/
def registered? (attempt : Attempt) : Option Descriptor :=
  match attempt.offer, attempt.refusal with
  | .ofDescriptor descriptor, none => some descriptor
  | _, _ => none

/-- The descriptors that attempts register, in order. -/
def registered (attempts : List Attempt) : List Descriptor := attempts.filterMap registered?

end Attempt

namespace Catalog

/-- The attempt to register an offer. -/
def attempt (catalog : Catalog) (offer : Offer) : Attempt :=
  ⟨catalog, offer, (catalog.register offer).1, (catalog.register offer).2⟩

/-- The attempts of one call, up to the first that is refused. -/
def attempts (catalog : Catalog) : List Offer → List Attempt
  | [] => []
  | offer :: rest =>
    match (catalog.register offer).2 with
    | some _ => [catalog.attempt offer]
    | none => catalog.attempt offer :: (catalog.register offer).1.attempts rest

/-- The attempts of calls, one call after the other. -/
def session (catalog : Catalog) : List (List Offer) → List Attempt
  | [] => []
  | offers :: rest => catalog.attempts offers ++ (catalog.registerAll offers).1.session rest

/-- The catalog behind calls. -/
def behind (catalog : Catalog) (calls : List (List Offer)) : Catalog :=
  calls.foldl (fun catalog offers => (catalog.registerAll offers).1) catalog

/-- The identities in use. -/
def identities (catalog : Catalog) : List Identity :=
  (catalog.typeTable.map fun entry => .ofType entry.1) ++
    catalog.functionTable.map fun entry => .ofFunction entry.1.1 entry.1.2

/-- The catalog with a descriptor behind the others of its table. -/
def enter (catalog : Catalog) (descriptor : Descriptor) : Catalog where
  typeTable := catalog.typeTable ++ descriptor.typeRow?.toList
  functionTable := catalog.functionTable ++ descriptor.functionRow?.toList
  methodTable :=
    match descriptor with
    | .ofMethods block => withBlock block catalog.methodTable
    | _ => catalog.methodTable

@[simp] theorem ofType_mem_identities {catalog : Catalog} {name : String} :
    .ofType name ∈ catalog.identities ↔ name ∈ catalog.typeTable.map Prod.fst := by
  simp [identities]

@[simp] theorem ofFunction_mem_identities {catalog : Catalog} {module : Option String} {name : String} :
    .ofFunction module name ∈ catalog.identities ↔ (module, name) ∈ catalog.functionTable.map Prod.fst := by
  simp [identities]

/-- What one call of `register` can do: refuse another value, refuse a descriptor whose identity is in use, or enter a
descriptor whose identity is not. -/
theorem register_cases (catalog : Catalog) (offer : Offer) :
    (∃ text, offer = .ofValue text ∧ catalog.register offer = (catalog, some (.noDescriptor text))) ∨
    (∃ descriptor identity, offer = .ofDescriptor descriptor ∧ descriptor.identity? = some identity ∧
      identity ∈ catalog.identities ∧ catalog.register offer = (catalog, some (.repeated identity))) ∨
    (∃ descriptor, offer = .ofDescriptor descriptor ∧
      (∀ identity, descriptor.identity? = some identity → identity ∉ catalog.identities) ∧
      catalog.register offer = (catalog.enter descriptor, none)) := by
  have ofType (name : String) (descriptor : Descriptor) (known : descriptor.identity? = some (.ofType name))
      (entered : catalog.enter descriptor = { catalog with typeTable := catalog.typeTable ++ [(name, descriptor)] })
      (run : catalog.register (.ofDescriptor descriptor) = catalog.registerType name descriptor) :
      (∃ identity, descriptor.identity? = some identity ∧ identity ∈ catalog.identities ∧
        catalog.register (.ofDescriptor descriptor) = (catalog, some (.repeated identity))) ∨
      ((∀ identity, descriptor.identity? = some identity → identity ∉ catalog.identities) ∧
        catalog.register (.ofDescriptor descriptor) = (catalog.enter descriptor, none)) := by
    by_cases used : name ∈ catalog.typeTable.map Prod.fst
    · exact .inl ⟨_, known, ofType_mem_identities.mpr used, by rw [run, registerType, if_pos used]⟩
    · refine .inr ⟨fun identity same => ?_, by rw [run, registerType, if_neg used, entered]⟩
      rw [known, Option.some.injEq] at same
      exact same ▸ mt ofType_mem_identities.mp used
  cases offer with
  | ofValue text => exact .inl ⟨text, rfl, rfl⟩
  | ofDescriptor descriptor =>
    cases descriptor with
    | ofClass item =>
      obtain ⟨identity, refused⟩ | entered := ofType _ (.ofClass item) rfl
        (by simp [enter, Descriptor.typeRow?, Descriptor.functionRow?]) rfl
      · exact .inr (.inl ⟨_, identity, rfl, refused⟩)
      · exact .inr (.inr ⟨_, rfl, entered⟩)
    | ofEnum item =>
      obtain ⟨identity, refused⟩ | entered := ofType _ (.ofEnum item) rfl
        (by simp [enter, Descriptor.typeRow?, Descriptor.functionRow?]) rfl
      · exact .inr (.inl ⟨_, identity, rfl, refused⟩)
      · exact .inr (.inr ⟨_, rfl, entered⟩)
    | ofMethods block =>
      refine .inr (.inr ⟨_, rfl, by simp [Descriptor.identity?], ?_⟩)
      simp [register, enter, Descriptor.typeRow?, Descriptor.functionRow?]
    | ofFunction item =>
      by_cases used : (item.module, item.callable.name) ∈ catalog.functionTable.map Prod.fst
      · refine .inr (.inl ⟨_, _, rfl, rfl, ofFunction_mem_identities.mpr used, ?_⟩)
        rw [register, registerFunction, if_pos used]
      · refine .inr (.inr ⟨_, rfl, fun identity same => ?_, ?_⟩)
        · rw [Descriptor.identity?, Option.some.injEq] at same
          exact same ▸ mt ofFunction_mem_identities.mp used
        · rw [register, registerFunction, if_neg used]
          simp [enter, Descriptor.typeRow?, Descriptor.functionRow?]

/-- Attempts that follow each other: each meets the catalog that the one before it leaves. -/
inductive Follows : Catalog → List Attempt → Prop where
  | nil (catalog : Catalog) : Follows catalog []
  | cons {catalog : Catalog} (offer : Offer) {rest : List Attempt} :
      Follows (catalog.register offer).1 rest → Follows catalog (catalog.attempt offer :: rest)

/-- The catalog behind attempts that follow each other is the first one with the registered descriptors. -/
def afterAttempts (catalog : Catalog) (attempts : List Attempt) : Catalog :=
  (Attempt.registered attempts).foldl enter catalog

@[simp] theorem afterAttempts_nil (catalog : Catalog) : catalog.afterAttempts [] = catalog := rfl

@[simp] theorem afterAttempts_append (catalog : Catalog) (attempts more : List Attempt) :
    catalog.afterAttempts (attempts ++ more) = (catalog.afterAttempts attempts).afterAttempts more := by
  simp [afterAttempts, Attempt.registered]

/-- One attempt leaves the catalog with what it registers. -/
@[simp] theorem afterAttempts_cons (catalog : Catalog) (offer : Offer) (rest : List Attempt) :
    catalog.afterAttempts (catalog.attempt offer :: rest) = (catalog.register offer).1.afterAttempts rest := by
  obtain ⟨text, rfl, run⟩ | ⟨descriptor, identity, rfl, -, -, run⟩ | ⟨descriptor, rfl, -, run⟩ :=
    catalog.register_cases offer
  all_goals simp [afterAttempts, Attempt.registered, List.filterMap_cons, Attempt.registered?, attempt, run]

theorem Follows.append {catalog : Catalog} {attempts more : List Attempt} (first : Follows catalog attempts)
    (second : Follows (catalog.afterAttempts attempts) more) : Follows catalog (attempts ++ more) := by
  induction first with
  | nil => exact second
  | cons offer _ step =>
    rw [afterAttempts_cons] at second
    exact .cons offer (step second)

/-- The attempts of one call follow each other up to the catalog that the call leaves. -/
theorem attempts_follow (catalog : Catalog) (offers : List Offer) :
    Follows catalog (catalog.attempts offers) ∧
      (catalog.registerAll offers).1 = catalog.afterAttempts (catalog.attempts offers) := by
  induction offers generalizing catalog with
  | nil => exact ⟨.nil catalog, rfl⟩
  | cons offer rest step =>
    rw [attempts, registerAll]
    rcases run : catalog.register offer with ⟨behind, _ | refusal⟩
    · obtain ⟨follow, same⟩ := step behind
      refine ⟨.cons offer (by rwa [run]), ?_⟩
      rw [afterAttempts_cons, run, same]
    · refine ⟨.cons offer (.nil _), ?_⟩
      rw [afterAttempts_cons, run, afterAttempts_nil]

/-- The attempts of a session follow each other up to the catalog behind its calls. -/
theorem session_follows (catalog : Catalog) (calls : List (List Offer)) :
    Follows catalog (catalog.session calls) ∧
      catalog.behind calls = catalog.afterAttempts (catalog.session calls) := by
  induction calls generalizing catalog with
  | nil => exact ⟨.nil catalog, rfl⟩
  | cons offers rest step =>
    obtain ⟨first, left⟩ := catalog.attempts_follow offers
    obtain ⟨others, same⟩ := step (catalog.registerAll offers).1
    rw [session, behind, List.foldl_cons, afterAttempts_append, ← left]
    exact ⟨first.append (left ▸ others), same⟩

/-- An attempt meets the catalog that the attempts before it leave. -/
theorem Follows.split {catalog : Catalog} {earlier later : List Attempt} {attempt : Attempt}
    (follow : Follows catalog (earlier ++ attempt :: later)) :
    ∃ offer, attempt = (catalog.afterAttempts earlier).attempt offer := by
  induction earlier generalizing catalog with
  | nil =>
    cases follow with
    | cons offer => exact ⟨offer, rfl⟩
  | cons first rest step =>
    cases follow with
    | cons offer behind =>
      rw [afterAttempts_cons]
      exact step behind

section Tables

variable (catalog : Catalog) (registered : List Descriptor)

/-- A table of blocks with one more block has it behind the others of its target. -/
theorem lookup_withBlock (block : MethodsDescriptor) (table : List (String × List MethodsDescriptor))
    (target : String) :
    ((withBlock block table).lookup target).getD [] =
      (table.lookup target).getD [] ++ if block.targetIdentity = target then [block] else [] := by
  induction table with
  | nil =>
    by_cases same : target = block.targetIdentity
    · simp [withBlock, same]
    · simp [withBlock, List.lookup_cons, beq_eq_false_iff_ne.mpr same, Ne.symm same]
  | cons entry rest step =>
    obtain ⟨key, blocks⟩ := entry
    by_cases mine : key = block.targetIdentity
    · subst mine
      by_cases same : target = block.targetIdentity
      · simp [withBlock, same]
      · simp [withBlock, List.lookup_cons, beq_eq_false_iff_ne.mpr same, Ne.symm same]
    · by_cases same : target = key
      · subst same
        simp [withBlock, mine, Ne.symm mine]
      · simp only [withBlock, if_neg mine, List.lookup_cons, beq_eq_false_iff_ne.mpr same, step]

@[simp] theorem typeTable_enter (descriptor : Descriptor) :
    (catalog.enter descriptor).typeTable = catalog.typeTable ++ descriptor.typeRow?.toList := rfl

@[simp] theorem functionTable_enter (descriptor : Descriptor) :
    (catalog.enter descriptor).functionTable = catalog.functionTable ++ descriptor.functionRow?.toList := rfl

theorem typeTable_foldl_enter : (registered.foldl enter catalog).typeTable =
    catalog.typeTable ++ registered.filterMap Descriptor.typeRow? := by
  induction registered generalizing catalog with
  | nil => simp
  | cons descriptor rest step =>
    rw [List.foldl_cons, step, typeTable_enter, List.append_assoc, List.filterMap_cons]
    cases descriptor.typeRow? <;> rfl

theorem functionTable_foldl_enter : (registered.foldl enter catalog).functionTable =
    catalog.functionTable ++ registered.filterMap Descriptor.functionRow? := by
  induction registered generalizing catalog with
  | nil => simp
  | cons descriptor rest step =>
    rw [List.foldl_cons, step, functionTable_enter, List.append_assoc, List.filterMap_cons]
    cases descriptor.functionRow? <;> rfl

/-- The blocks of a target are the registered ones, in the order of their registration. -/
theorem methodsOf_foldl_enter (target : String) : (registered.foldl enter catalog).methodsOf target =
    catalog.methodsOf target ++ registered.filterMap (Descriptor.blockOf? target) := by
  induction registered generalizing catalog with
  | nil => simp
  | cons descriptor rest step =>
    rw [List.foldl_cons, step]
    cases descriptor with
    | ofMethods block =>
      rw [methodsOf, enter, lookup_withBlock, List.append_assoc, List.filterMap_cons]
      by_cases same : block.targetIdentity = target <;> simp [Descriptor.blockOf?, same, methodsOf]
    | _ => rfl

/-- A descriptor that is entered brings its identity into use. -/
theorem identities_enter (descriptor : Descriptor) :
    (catalog.enter descriptor).identities.Perm (catalog.identities ++ descriptor.identity?.toList) := by
  rw [identities, identities, typeTable_enter, functionTable_enter, List.map_append, List.map_append, List.append_assoc,
    List.append_assoc]
  refine List.Perm.append_left _ ?_
  cases descriptor with
  | ofMethods block => exact .refl _
  | ofFunction item => exact .refl _
  | _ =>
    refine List.perm_append_comm.trans ?_
    rw [List.append_assoc]
    exact .refl _

/-- The identities in use are those of the registered descriptors. -/
theorem identities_foldl_enter : (registered.foldl enter catalog).identities.Perm
    (catalog.identities ++ registered.filterMap Descriptor.identity?) := by
  induction registered generalizing catalog with
  | nil => simp
  | cons descriptor rest step =>
    have entered := (catalog.identities_enter descriptor).append_right (rest.filterMap Descriptor.identity?)
    rw [List.foldl_cons]
    refine (step _).trans (entered.trans ?_)
    rw [List.append_assoc, List.filterMap_cons]
    cases descriptor.identity? <;> exact .refl _

end Tables

/-- Attempts that follow each other register no identity twice, and none that is in use before them. -/
theorem Follows.nodup {catalog : Catalog} {attempts : List Attempt} (follow : Follows catalog attempts)
    (distinct : catalog.identities.Nodup) : (catalog.afterAttempts attempts).identities.Nodup := by
  induction follow with
  | nil => exact distinct
  | @cons catalog offer rest _ step =>
    rw [afterAttempts_cons]
    refine step ?_
    obtain ⟨text, -, run⟩ | ⟨_, _, -, -, -, run⟩ | ⟨descriptor, -, fresh, run⟩ := catalog.register_cases offer
    · rwa [run]
    · rwa [run]
    · rw [run]
      refine (catalog.identities_enter descriptor).nodup_iff.mpr ?_
      cases known : descriptor.identity? with
      | none => simpa using distinct
      | some identity => exact List.nodup_append_comm.mp (List.nodup_cons.mpr ⟨fresh identity known, distinct⟩)

/-- A session on the catalog without descriptors registers no identity twice. -/
theorem session_nodup (calls : List (List Offer)) :
    ((Attempt.registered (empty.session calls)).filterMap Descriptor.identity?).Nodup := by
  have distinct := (empty.session_follows calls).1.nodup List.nodup_nil
  exact (identities_foldl_enter empty _).nodup_iff.mp distinct

@[simp] theorem mem_insertModule {module other : Option String} {modules : List (Option String)} :
    other ∈ insertModule module modules ↔ other = module ∨ other ∈ modules := by
  rw [insertModule]
  split
  case isTrue present =>
    rw [List.contains_iff_mem] at present
    exact ⟨.inr, fun which => which.elim (· ▸ present) id⟩
  case isFalse => rw [List.perm_middle.mem_iff, List.takeWhile_append_dropWhile, List.mem_cons]

theorem nodup_insertModule {module : Option String} {modules : List (Option String)} (distinct : modules.Nodup) :
    (insertModule module modules).Nodup := by
  rw [insertModule]
  split
  case isTrue => exact distinct
  case isFalse absent =>
    rw [List.contains_iff_mem] at absent
    rw [List.perm_middle.nodup_iff, List.takeWhile_append_dropWhile]
    exact List.nodup_cons.mpr ⟨absent, distinct⟩

theorem mem_foldr_insertModule {module : Option String} {modules : List (Option String)} :
    module ∈ modules.foldr insertModule [] ↔ module ∈ modules := by
  induction modules with
  | nil => rfl
  | cons first rest step => rw [List.foldr_cons, mem_insertModule, step, List.mem_cons]

theorem nodup_foldr_insertModule (modules : List (Option String)) : (modules.foldr insertModule []).Nodup := by
  induction modules with
  | nil => exact List.nodup_nil
  | cons first rest step => exact nodup_insertModule step

/-- A module is listed when a query about it has an answer. -/
theorem mem_modules {catalog : Catalog} {module : Option String} :
    module ∈ catalog.modules ↔ catalog.typesIn module ≠ [] ∨ catalog.functionsIn module ≠ [] := by
  rw [modules, mem_foldr_insertModule, List.mem_append]
  simp [typesIn, functionsIn]

/-- What the queries of a catalog answer when exactly some descriptors are registered: a type is listed once, for its own
module only, and so is a function; the blocks of a target are listed in the order of their registration; and the modules
are those that have a type or a function, each once. -/
structure Answers (catalog : Catalog) (registered : List Descriptor) : Prop where
  types : ∀ module entry, (catalog.typesIn module).count entry =
    if entry ∈ registered ∧ entry.isType ∧ entry.module? = some module then 1 else 0
  functions : ∀ module function, (catalog.functionsIn module).count function =
    if .ofFunction function ∈ registered ∧ function.module = module then 1 else 0
  methods : ∀ target, catalog.methodsOf target = registered.filterMap (Descriptor.blockOf? target)
  modules : ∀ module, module ∈ catalog.modules ↔ catalog.typesIn module ≠ [] ∨ catalog.functionsIn module ≠ []
  modulesOnce : catalog.modules.Nodup

section Queries

variable {registered : List Descriptor}

/-- Of descriptors with distinct identities, those that pass a test are each listed once. -/
theorem count_filter (distinct : (registered.filterMap Descriptor.identity?).Nodup) (passes : Descriptor → Bool)
    (identified : ∀ entry, passes entry → ∃ identity, entry.identity? = some identity) (entry : Descriptor) :
    (registered.filter passes).count entry = if entry ∈ registered ∧ passes entry then 1 else 0 := by
  split
  case isFalse other => exact List.count_eq_zero.mpr (mt List.mem_filter.mp other)
  case isTrue listed =>
    obtain ⟨member, passed⟩ := listed
    obtain ⟨identity, known⟩ := identified entry passed
    rw [List.count_filter passed]
    refine Nat.le_antisymm ?_ (List.one_le_count_iff.mpr member)
    calc registered.count entry ≤ registered.countP (fun other => other.identity? == some identity) :=
          List.countP_mono_left fun other _ same => by simpa [eq_of_beq same] using known
      _ = (registered.filterMap Descriptor.identity?).count identity := (List.count_filterMap ..).symm
      _ ≤ 1 := List.nodup_iff_count_le_one.mp distinct identity

theorem typesIn_foldl_enter (module : Option String) : (registered.foldl enter empty).typesIn module =
    registered.filter fun entry => entry.isType && decide (entry.module? = some module) := by
  have kept : (registered.filterMap Descriptor.typeRow?).map Prod.snd = registered.filter Descriptor.isType := by
    induction registered with
    | nil => rfl
    | cons first rest step =>
      cases first with
      | ofMethods block => exact step
      | ofFunction item => exact step
      | _ => exact congrArg (List.cons _) step
  rw [typesIn, types, typeTable_foldl_enter, empty, List.nil_append, kept, List.filter_filter]
  simp only [Bool.and_comm]

theorem functionsIn_foldl_enter (module : Option String) :
    ((registered.foldl enter empty).functionsIn module).map Descriptor.ofFunction =
      registered.filter fun entry => entry.functionRow?.isSome && decide (entry.module? = some module) := by
  rw [functionsIn, functionTable_foldl_enter, empty, List.nil_append]
  induction registered with
  | nil => rfl
  | cons first rest step =>
    cases first with
    | ofFunction item =>
      have first : (Descriptor.ofFunction item).functionRow? = some ((item.module, item.callable.name), item) := rfl
      by_cases own : item.module = module <;>
        simpa [List.filterMap_cons, List.filter_cons, first, own, Descriptor.module?] using step
    | _ => exact step

/-- A catalog that is built from descriptors with distinct identities answers with them. -/
theorem answers_foldl_enter (distinct : (registered.filterMap Descriptor.identity?).Nodup) :
    (registered.foldl enter empty).Answers registered where
  types module entry := by
    rw [typesIn_foldl_enter, count_filter distinct]
    · simp
    · intro entry isType
      cases entry <;> simp_all [Descriptor.isType, Descriptor.typeRow?, Descriptor.identity?]
  functions module function := by
    rw [← List.count_map_of_injective _ Descriptor.ofFunction (fun _ _ => Descriptor.ofFunction.inj),
      functionsIn_foldl_enter, count_filter distinct]
    · simp [Descriptor.functionRow?, Descriptor.module?]
    · intro entry isFunction
      cases entry <;> simp_all [Descriptor.functionRow?, Descriptor.identity?]
  methods target := by rw [methodsOf_foldl_enter, empty, methodsOf, List.lookup_nil, Option.getD_none, List.nil_append]
  modules _ := mem_modules
  modulesOnce := nodup_foldr_insertModule _

end Queries

/-- For every session on the catalog without descriptors: an attempt is refused for its identity exactly when it offers a
descriptor whose identity an earlier attempt has registered, and for being no descriptor exactly when it offers another
value; a refused attempt leaves the catalog as it is; and behind the session the queries answer with the descriptors that
were registered. -/
theorem session_isConsistent (calls : List (List Offer)) :
    (∀ earlier attempt later, empty.session calls = earlier ++ attempt :: later →
      (∀ identity, attempt.refusal = some (.repeated identity) ↔
        ∃ descriptor, attempt.offer = .ofDescriptor descriptor ∧ descriptor.identity? = some identity ∧
          ∃ entry ∈ Attempt.registered earlier, entry.identity? = some identity) ∧
      (∀ text, attempt.refusal = some (.noDescriptor text) ↔ attempt.offer = .ofValue text) ∧
      (attempt.refusal ≠ none → attempt.behind = attempt.before)) ∧
    (empty.behind calls).Answers (Attempt.registered (empty.session calls)) := by
  obtain ⟨follow, same⟩ := empty.session_follows calls
  refine ⟨?_, same ▸ answers_foldl_enter (session_nodup calls)⟩
  intro earlier attempt later split
  obtain ⟨offer, rfl⟩ := (split ▸ follow).split
  have inUse (identity : Identity) : identity ∈ (empty.afterAttempts earlier).identities ↔
      ∃ entry ∈ Attempt.registered earlier, entry.identity? = some identity :=
    (identities_foldl_enter empty (Attempt.registered earlier)).mem_iff.trans List.mem_filterMap
  simp only [← inUse]
  obtain ⟨text, rfl, run⟩ | ⟨descriptor, identity, rfl, known, used, run⟩ | ⟨descriptor, rfl, fresh, run⟩ :=
    (empty.afterAttempts earlier).register_cases offer
  · simp [Catalog.attempt, run]
  · have distinct (other : Identity) : identity = other ↔
        descriptor.identity? = some other ∧ other ∈ (empty.afterAttempts earlier).identities := by
      rw [known, Option.some.injEq]
      exact ⟨fun same => ⟨same, same ▸ used⟩, And.left⟩
    simpa [Catalog.attempt, run] using distinct
  · simpa [Catalog.attempt, run] using fresh

end Catalog

end Exposure
