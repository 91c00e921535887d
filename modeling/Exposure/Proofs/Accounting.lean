import Exposure.Proofs.Description
import Mathlib.Data.List.Nodup

/-!
# What a described block accounts for

A block is described in two passes. The first reads its functions in order and keeps six records: the methods, the class
attributes, the getters, the setters, the properties that have an accessor, and the names taken so far. The second merges
the accessors of every property. `MethodsProgress.Records` says what the records are after any number of functions, and
`MethodsProgress.Merged` what the merged properties are after any number of names; each is kept by a step of its pass, and
together they say which function stands where in the description.
-/

namespace Exposure

namespace MethodKind

/-- The kinds that are listed among the methods. -/
def isMethod : MethodKind → Bool
  | getter => false
  | setter => false
  | classAttribute => false
  | _ => true

/-- The kinds that are merged into properties. -/
def isAccessor : MethodKind → Bool
  | getter => true
  | setter => true
  | _ => false

/-- The kind that is listed among the class attributes. -/
def isClassAttribute (kind : MethodKind) : Bool := kind = classAttribute

end MethodKind

namespace FunctionItem

/-- The stub options of a function skip it. -/
def isSkipped (function : FunctionItem) : Bool :=
  (Options.ofAttributes .ofStubMethod "gen_stub" function.header.attributes []).toOption.any (·.has .skip)

/-- The kind of method that a function is described as; none if it is skipped. -/
def kind? (function : FunctionItem) : Option MethodKind :=
  if function.isSkipped then none else (MethodKind.ofFunction function).toOption

end FunctionItem

/-- Descriptions list the functions of some kinds: one for each of them, in the order of the functions. -/
def Lists {description : Type} (describes : FunctionItem → description → Prop) (kinds : MethodKind → Bool)
    (functions : List FunctionItem) (listed : List description) : Prop :=
  List.Forall₂ describes (functions.filter fun function => function.kind?.any kinds) listed

namespace Lists

variable {description : Type} {describes : FunctionItem → description → Prop} {kinds : MethodKind → Bool}
  {functions : List FunctionItem} {listed : List description} {next : FunctionItem}

theorem nil : Lists describes kinds [] [] := List.Forall₂.nil

/-- A function of another kind adds nothing. -/
theorem pass (lists : Lists describes kinds functions listed) (other : next.kind?.any kinds = false) :
    Lists describes kinds (functions ++ [next]) listed := by
  rw [Lists, List.filter_append, List.filter_cons_of_neg (by rw [other]; exact Bool.false_ne_true), List.filter_nil,
    List.append_nil]
  exact lists

/-- A function of one of the kinds adds its description. -/
theorem add (lists : Lists describes kinds functions listed) (own : next.kind?.any kinds = true) {one : description}
    (described : describes next one) : Lists describes kinds (functions ++ [next]) (listed ++ [one]) := by
  rw [Lists, List.filter_append, List.filter_cons_of_pos (by exact own), List.filter_nil]
  exact List.rel_append lists (.cons described .nil)

/-- Every description is that of a function of one of the kinds. -/
theorem exists_of_mem (lists : Lists describes kinds functions listed) {one : description} (member : one ∈ listed) :
    ∃ function ∈ functions, function.kind?.any kinds = true ∧ describes function one := by
  obtain ⟨function, kept, described⟩ := Outcome.exists_of_forall₂ lists member
  obtain ⟨listed, own⟩ := List.mem_filter.mp kept
  exact ⟨function, listed, own, described⟩

end Lists

namespace Accessor

/-- The accessor that a function is. -/
def ofFunction (owner : String) (function : FunctionItem) : Outcome Accessor :=
  if function.kind? = some .getter then ofGetter owner function else ofSetter owner function

/-- The accessor is a getter. -/
def isGetter (accessor : Accessor) : Bool := accessor.function.kind? = some .getter

/-- The accessor is a setter. -/
def isSetter (accessor : Accessor) : Bool := accessor.function.kind? = some .setter

/-- A setter takes the type that a getter returns, or an option of it. -/
def Matches (owner : String) (getter setter : Accessor) : Prop :=
  getter.typeSignature = setter.typeSignature ∨
    ∃ type inner, valueType? setter.function = some type ∧ type.optionInner? = some inner ∧
      inner.signature (some owner) = getter.typeSignature

theorem settable_iff {owner : String} {getter setter : Accessor} :
    settable owner getter setter = true ↔ Matches owner getter setter := by
  simp only [settable, Bool.or_eq_true, decide_eq_true_eq, Option.any_eq_true, Option.bind_eq_some_iff, Matches]
  refine or_congr_right ⟨?_, ?_⟩
  · rintro ⟨inner, ⟨type, value, option⟩, same⟩
    exact ⟨type, inner, value, option, same⟩
  · rintro ⟨type, inner, value, option, same⟩
    exact ⟨inner, ⟨type, value, option⟩, same⟩

theorem ofGetter_function {owner : String} {function : FunctionItem} {getter : Accessor}
    (run : ofGetter owner function = .ok getter) : getter.function = function := by
  simp only [ofGetter, Outcome.bind_eq_ok, Outcome.pure_eq_ok] at run
  obtain ⟨options, -, name, -, doc, -, rfl⟩ := run
  rfl

theorem ofSetter_function {owner : String} {function : FunctionItem} {setter : Accessor}
    (run : ofSetter owner function = .ok setter) : setter.function = function := by
  simp only [ofSetter, Outcome.bind_eq_ok, Outcome.pure_eq_ok] at run
  obtain ⟨options, -, name, -, doc, -, rfl⟩ := run
  rfl

/-- Properties merge accessors: there is one for each getter, in the order of the first accessor of its name, with the type
and the text of the getter; it is writable exactly when there is a setter of its name. No two setters share a name, and
each has a getter of its name and of a type that it takes. -/
structure Merges (owner : String) (accessors : List Accessor) (properties : List MemberDescriptor) : Prop where
  order : properties.map (·.name) = (accessors.map (·.name)).eraseDups
  getters : ((accessors.filter isGetter).map (·.name)).Perm (properties.map (·.name))
  entries : ∀ property ∈ properties, ∃ getter ∈ accessors, getter.isGetter ∧
    property = ⟨getter.name, getter.typeSignature, true,
      accessors.any fun setter => setter.isSetter && setter.name = getter.name, getter.doc⟩
  setters : ((accessors.filter isSetter).map (·.name)).Nodup
  matching : ∀ setter ∈ accessors, setter.isSetter →
    ∃ getter ∈ accessors, getter.isGetter ∧ getter.name = setter.name ∧ Matches owner getter setter

end Accessor

namespace MethodsProgress

/-- A method describes a function of its kind. -/
def IsMethod (owner : String) (function : FunctionItem) (method : MethodDescriptor) : Prop :=
  function.kind? = some method.kind ∧ CallableDescriptor.ofMethod owner method.kind function = .ok method.callable

/-- A class attribute describes a function: it can be read and not written. -/
def IsClassAttribute (owner : String) (function : FunctionItem) (member : MemberDescriptor) : Prop :=
  ∃ options doc, CallableDescriptor.optionsOf function = .ok options ∧
    Documentation.ofAttributes function.header.attributes = .ok doc ∧
    member = ⟨options.nameOr function.name, CallableDescriptor.returnSignature (some owner) function, true, false, doc⟩

/-- A name is claimed only if it is free. -/
theorem claim_eq_ok {progress claimed : MethodsProgress} {name : String} {function : FunctionItem} :
    progress.claim name function = .ok claimed ↔
      name ∉ progress.claimed ∧ { progress with claimed := name :: progress.claimed } = claimed := by
  rw [claim]
  split <;> simp_all [report]

theorem claim_of_notMem {progress : MethodsProgress} {name : String} (free : name ∉ progress.claimed)
    (function : FunctionItem) : progress.claim name function = .ok { progress with claimed := name :: progress.claimed } :=
  claim_eq_ok.mpr ⟨free, rfl⟩

theorem find?_isSome {accessors : List Accessor} {name : String} :
    (find? accessors name).isSome = true ↔ name ∈ accessors.map (·.name) := by
  simp [find?]

/-- What a function of a known kind can do to the records. -/
theorem readKind_cases {owner : String} {before after : MethodsProgress} {function : FunctionItem} {kind : MethodKind}
    (run : readKind owner before function kind = .ok after) :
    (kind = .getter ∧ ∃ getter, Accessor.ofGetter owner function = .ok getter ∧
      getter.name ∉ before.getters.map (·.name) ∧
      { before with getters := before.getters ++ [getter] }.noteProperty getter.name = after) ∨
    (kind = .setter ∧ ∃ setter, Accessor.ofSetter owner function = .ok setter ∧
      setter.name ∉ before.setters.map (·.name) ∧
      { before with setters := before.setters ++ [setter] }.noteProperty setter.name = after) ∨
    (kind = .classAttribute ∧ ∃ member, IsClassAttribute owner function member ∧ member.name ∉ before.claimed ∧
      { before with claimed := member.name :: before.claimed, classAttributes := before.classAttributes ++ [member] } =
        after) ∨
    (kind.isMethod = true ∧ ∃ callable, CallableDescriptor.ofMethod owner kind function = .ok callable ∧
      callable.name ∉ before.claimed ∧
      { before with claimed := callable.name :: before.claimed, methods := before.methods ++ [⟨kind, callable⟩] } =
        after) := by
  have method (adds : ∃ callable, CallableDescriptor.ofMethod owner kind function = .ok callable ∧
      ∃ claimed, before.claim callable.name function = .ok claimed ∧
        { claimed with methods := claimed.methods ++ [⟨kind, callable⟩] } = after) :
      ∃ callable, CallableDescriptor.ofMethod owner kind function = .ok callable ∧ callable.name ∉ before.claimed ∧
        { before with claimed := callable.name :: before.claimed, methods := before.methods ++ [⟨kind, callable⟩] } =
          after := by
    obtain ⟨callable, described, claimed, claims, rfl⟩ := adds
    obtain ⟨free, rfl⟩ := claim_eq_ok.mp claims
    exact ⟨callable, described, free, rfl⟩
  cases kind with
  | getter =>
    simp only [readKind, Outcome.bind_eq_ok] at run
    obtain ⟨getter, ofGetter, run⟩ := run
    split at run
    · simp [report] at run
    · rename_i free
      exact .inl ⟨rfl, getter, ofGetter, mt find?_isSome.mpr free, Outcome.pure_eq_ok.mp run⟩
  | setter =>
    simp only [readKind, Outcome.bind_eq_ok] at run
    obtain ⟨setter, ofSetter, run⟩ := run
    split at run
    · simp [report] at run
    · rename_i free
      exact .inr (.inl ⟨rfl, setter, ofSetter, mt find?_isSome.mpr free, Outcome.pure_eq_ok.mp run⟩)
  | classAttribute =>
    simp only [readKind, Outcome.bind_eq_ok, Outcome.pure_eq_ok] at run
    obtain ⟨options, ofOptions, claimed, claims, doc, documented, rfl⟩ := run
    obtain ⟨free, rfl⟩ := claim_eq_ok.mp claims
    exact .inr (.inr (.inl ⟨rfl, _, ⟨options, doc, ofOptions, documented, rfl⟩, free, rfl⟩))
  | _ =>
    simp only [readKind, Outcome.bind_eq_ok, Outcome.pure_eq_ok] at run
    exact .inr (.inr (.inr ⟨rfl, method run⟩))

/-- A function is skipped and changes nothing, or it is read as a function of its kind. -/
theorem read_cases {owner : String} {before after : MethodsProgress} {function : FunctionItem}
    (run : read owner before function = .ok after) :
    (function.isSkipped = true ∧ function.kind? = none ∧ before = after) ∨
      ∃ kind, function.kind? = some kind ∧ readKind owner before function kind = .ok after := by
  simp only [read, Outcome.bind_eq_ok] at run
  obtain ⟨stub, options, run⟩ := run
  have skips : function.isSkipped = stub.has .skip := by simp [FunctionItem.isSkipped, options, Except.toOption]
  split at run
  case isTrue skipped =>
    have isSkipped := skips.trans skipped
    exact .inl ⟨isSkipped, by rw [FunctionItem.kind?, if_pos isSkipped], Outcome.pure_eq_ok.mp run⟩
  case isFalse shown =>
    simp only [Outcome.bind_eq_ok] at run
    obtain ⟨kind, classified, run⟩ := run
    refine .inr ⟨kind, ?_, run⟩
    rw [FunctionItem.kind?, if_neg (skips ▸ shown), Outcome.toOption_eq_some]
    exact classified

/-- What the records are after some functions, of which the accessors are known. -/
structure Records (owner : String) (functions : List FunctionItem) (accessors : List Accessor)
    (progress : MethodsProgress) : Prop where
  classified : ∀ function ∈ functions, function.isSkipped = true ∨ function.kind?.isSome = true
  methods : Lists (IsMethod owner) MethodKind.isMethod functions progress.methods
  classAttributes : Lists (IsClassAttribute owner) MethodKind.isClassAttribute functions progress.classAttributes
  halves : Lists (fun function accessor => Accessor.ofFunction owner function = .ok accessor)
    MethodKind.isAccessor functions accessors
  getters : progress.getters = accessors.filter Accessor.isGetter
  setters : progress.setters = accessors.filter Accessor.isSetter
  gettersOnce : (progress.getters.map (·.name)).Nodup
  settersOnce : (progress.setters.map (·.name)).Nodup
  properties : progress.properties = (accessors.map (·.name)).eraseDups
  claimed : progress.claimed.Perm
    (progress.methods.map (·.callable.name) ++ progress.classAttributes.map (·.name))
  distinct : progress.claimed.Nodup

theorem noteProperty_eq (progress : MethodsProgress) (name : String) : progress.noteProperty name =
    { progress with
      properties := if name ∈ progress.properties then progress.properties else progress.properties ++ [name] } := by
  rw [noteProperty]
  split <;> simp_all

theorem eraseDups_concat (names : List String) (name : String) :
    (names ++ [name]).eraseDups = if name ∈ names.eraseDups then names.eraseDups else names.eraseDups ++ [name] := by
  rw [List.eraseDups_append]
  by_cases present : name ∈ names <;> simp [List.removeAll, present, List.eraseDups_cons]

namespace Records

variable {owner : String} {functions : List FunctionItem} {accessors : List Accessor}
  {before after : MethodsProgress} {next : FunctionItem}

theorem start : Records owner [] [] .start where
  classified := by simp
  methods := .nil
  classAttributes := .nil
  halves := .nil
  getters := rfl
  setters := rfl
  gettersOnce := List.nodup_nil
  settersOnce := List.nodup_nil
  properties := rfl
  claimed := .refl _
  distinct := List.nodup_nil

/-- What classifies one more function classifies all. -/
theorem classified_concat (records : Records owner functions accessors before)
    (ofNext : next.isSkipped = true ∨ next.kind?.isSome = true) :
    ∀ function ∈ functions ++ [next], function.isSkipped = true ∨ function.kind?.isSome = true := by
  simp only [List.mem_append, List.mem_singleton, or_imp, forall_and, forall_eq]
  exact ⟨records.classified, ofNext⟩

/-- An accessor is added to the getters or to the setters, and its property is noted. -/
theorem addAccessor (records : Records owner functions accessors before) {kind : MethodKind}
    (known : next.kind? = some kind) (isAccessor : kind.isAccessor = true) {one : Accessor}
    (found : Accessor.ofFunction owner next = .ok one)
    (getterFree : one.isGetter = true → one.name ∉ before.getters.map (·.name))
    (setterFree : one.isSetter = true → one.name ∉ before.setters.map (·.name)) :
    Records owner (functions ++ [next]) (accessors ++ [one])
      ({ before with
        getters := before.getters ++ [one].filter Accessor.isGetter
        setters := before.setters ++ [one].filter Accessor.isSetter }.noteProperty one.name) := by
  have noMethod : kind.isMethod = false ∧ kind.isClassAttribute = false := by
    cases kind <;> simp_all [MethodKind.isMethod, MethodKind.isClassAttribute, MethodKind.isAccessor]
  have once {accessors : List Accessor} {side : Accessor → Bool} (distinct : (accessors.map (·.name)).Nodup)
      (free : side one = true → one.name ∉ accessors.map (·.name)) :
      ((accessors ++ [one].filter side).map (·.name)).Nodup := by
    cases own : side one with
    | false => simpa [List.filter_cons, own] using distinct
    | true =>
      rw [List.filter_cons_of_pos own, List.filter_nil, List.map_append, List.map_singleton]
      exact List.nodup_append_comm.mp (List.nodup_cons.mpr ⟨free own, distinct⟩)
  rw [noteProperty_eq]
  exact {
    classified := records.classified_concat (.inr (known ▸ rfl))
    methods := records.methods.pass (by rw [known, Option.any_some, noMethod.1])
    classAttributes := records.classAttributes.pass (by rw [known, Option.any_some, noMethod.2])
    halves := records.halves.add (by rw [known, Option.any_some, isAccessor]) found
    getters := by rw [List.filter_append, ← records.getters]
    setters := by rw [List.filter_append, ← records.setters]
    gettersOnce := once records.gettersOnce getterFree
    settersOnce := once records.settersOnce setterFree
    properties := by rw [List.map_append, List.map_singleton, eraseDups_concat, ← records.properties]
    claimed := records.claimed
    distinct := records.distinct }

/-- One more function keeps the records. -/
theorem step (records : Records owner functions accessors before) (run : read owner before next = .ok after) :
    ∃ accessors, Records owner (functions ++ [next]) accessors after := by
  obtain ⟨skipped, none, rfl⟩ | ⟨kind, known, run⟩ := read_cases run
  · have outside (kinds : MethodKind → Bool) : next.kind?.any kinds = false := by rw [none, Option.any_none]
    exact ⟨accessors, { records with
      classified := records.classified_concat (.inl skipped)
      methods := records.methods.pass (outside _)
      classAttributes := records.classAttributes.pass (outside _)
      halves := records.halves.pass (outside _) }⟩
  · have classified := (records.classified_concat (.inr (known ▸ rfl)) : ∀ function ∈ functions ++ [next], _)
    obtain ⟨rfl, getter, ofGetter, free, rfl⟩ | ⟨rfl, setter, ofSetter, free, rfl⟩ |
      ⟨rfl, member, described, free, rfl⟩ | ⟨isMethod, callable, described, free, rfl⟩ := readKind_cases run
    case inl =>
      have isGetter : getter.isGetter = true := by
        simp [Accessor.isGetter, Accessor.ofGetter_function ofGetter, known]
      have isSetter : getter.isSetter = false := by
        simp [Accessor.isSetter, Accessor.ofGetter_function ofGetter, known]
      have found : Accessor.ofFunction owner next = .ok getter := by rw [Accessor.ofFunction, if_pos known, ofGetter]
      refine ⟨accessors ++ [getter], ?_⟩
      have added := records.addAccessor known rfl found (fun _ => free) (fun wrong => by simp [isSetter] at wrong)
      simpa [List.filter_cons, isGetter, isSetter] using added
    case inr.inl =>
      have isGetter : setter.isGetter = false := by
        simp [Accessor.isGetter, Accessor.ofSetter_function ofSetter, known]
      have isSetter : setter.isSetter = true := by
        simp [Accessor.isSetter, Accessor.ofSetter_function ofSetter, known]
      have found : Accessor.ofFunction owner next = .ok setter := by
        rw [Accessor.ofFunction, if_neg (by rw [known]; simp), ofSetter]
      refine ⟨accessors ++ [setter], ?_⟩
      have added := records.addAccessor known rfl found (fun wrong => by simp [isGetter] at wrong) (fun _ => free)
      simpa [List.filter_cons, isGetter, isSetter] using added
    case inr.inr.inl =>
      refine ⟨accessors, { records with
        classified := classified
        methods := records.methods.pass (by rw [known]; rfl)
        classAttributes := records.classAttributes.add (by rw [known]; rfl) described
        halves := records.halves.pass (by rw [known]; rfl)
        claimed := ?_
        distinct := List.nodup_cons.mpr ⟨free, records.distinct⟩ }⟩
      rw [List.map_append, ← List.append_assoc]
      exact (records.claimed.cons _).trans (List.perm_append_singleton _ _).symm
    case inr.inr.inr =>
      have others : kind.isAccessor = false ∧ kind.isClassAttribute = false := by
        cases kind <;> simp_all [MethodKind.isMethod, MethodKind.isClassAttribute, MethodKind.isAccessor]
      refine ⟨accessors, { records with
        classified := classified
        methods := records.methods.add (by rw [known, Option.any_some, isMethod]) ⟨known, described⟩
        classAttributes := records.classAttributes.pass (by rw [known, Option.any_some, others.2])
        halves := records.halves.pass (by rw [known, Option.any_some, others.1])
        claimed := ?_
        distinct := List.nodup_cons.mpr ⟨free, records.distinct⟩ }⟩
      rw [List.map_append, List.append_assoc]
      exact (records.claimed.cons _).trans List.perm_middle.symm

/-- Every accessor is a getter or a setter. -/
theorem getter_or_setter (records : Records owner functions accessors before) {accessor : Accessor}
    (member : accessor ∈ accessors) : accessor.isGetter = true ∨ accessor.isSetter = true := by
  obtain ⟨function, -, own, found⟩ := records.halves.exists_of_mem member
  obtain ⟨kind, known, isAccessor⟩ := (Option.any_eq_true _ _).mp own
  rw [Accessor.ofFunction] at found
  split at found
  case isTrue isGetter => exact .inl (by rw [Accessor.isGetter, Accessor.ofGetter_function found, isGetter]; rfl)
  case isFalse other =>
    refine .inr ?_
    rw [Accessor.isSetter, Accessor.ofSetter_function found, known]
    cases kind <;> simp_all [MethodKind.isAccessor]

/-- The functions of a block keep the records, one after the other. -/
theorem run (read : functions.foldlM (read owner) MethodsProgress.start = .ok after) :
    ∃ accessors, Records owner functions accessors after :=
  Outcome.foldlM_history (fun past progress => ∃ accessors, Records owner past accessors progress)
    (fun _ _ _ _ _ ⟨_, records⟩ run => records.step run) ⟨[], .start⟩ read

end Records

theorem find?_eq_some {accessors : List Accessor} {name : String} {accessor : Accessor}
    (found : find? accessors name = some accessor) : accessor ∈ accessors ∧ accessor.name = name := by
  simpa using And.intro (List.mem_of_find?_eq_some found) (List.find?_some found)

/-- An accessor is found under its name if no other has that name. -/
theorem find?_of_mem {accessors : List Accessor} (once : (accessors.map (·.name)).Nodup) {accessor : Accessor}
    (member : accessor ∈ accessors) : find? accessors accessor.name = some accessor := by
  obtain ⟨other, found⟩ := Option.isSome_iff_exists.mp (find?_isSome.mpr (List.mem_map_of_mem member))
  obtain ⟨inside, sameName⟩ := find?_eq_some found
  rw [found, List.inj_on_of_nodup_map once inside member sameName]

/-- What the merged property of a name is: there is a getter, which a setter of that name matches. -/
theorem addProperty_cases {owner : String} {before after : MethodsProgress × List MemberDescriptor} {name : String}
    (run : addProperty owner before name = .ok after)
    (listed : name ∈ before.1.getters.map (·.name) ∨ name ∈ before.1.setters.map (·.name)) :
    ∃ getter, find? before.1.getters name = some getter ∧
      (∀ setter, find? before.1.setters name = some setter → Accessor.Matches owner getter setter) ∧
      name ∉ before.1.claimed ∧
      after = ({ before.1 with claimed := name :: before.1.claimed }, before.2 ++
        [⟨name, getter.typeSignature, true, (find? before.1.setters name).isSome, getter.doc⟩]) := by
  simp only [← find?_isSome] at listed
  simp only [addProperty] at run
  split at run
  case h_1 noGetter noSetter => simp [noGetter, noSetter] at listed
  case h_2 => simp [report] at run
  case h_3 getter ofGetter noSetter =>
    simp only [Outcome.bind_eq_ok, claim_eq_ok, Outcome.pure_eq_ok] at run
    obtain ⟨_, ⟨free, rfl⟩, rfl⟩ := run
    exact ⟨getter, ofGetter, by simp [noSetter], free, by rw [noSetter]; rfl⟩
  case h_4 getter setter ofGetter ofSetter =>
    split at run
    case isTrue settable =>
      simp only [Outcome.bind_eq_ok, claim_eq_ok, Outcome.pure_eq_ok] at run
      obtain ⟨_, ⟨free, rfl⟩, rfl⟩ := run
      refine ⟨getter, ofGetter, fun other same => ?_, free, by rw [ofSetter]; rfl⟩
      rw [ofSetter, Option.some.injEq] at same
      exact same ▸ Accessor.settable_iff.mp settable
    case isFalse => simp at run

/-- What the merged properties are after some of the names. -/
structure Merged (owner : String) (progress : MethodsProgress) (names : List String)
    (state : MethodsProgress × List MemberDescriptor) : Prop where
  getters : state.1.getters = progress.getters
  setters : state.1.setters = progress.setters
  order : state.2.map (·.name) = names
  claimed : state.1.claimed.Perm (progress.claimed ++ names)
  distinct : state.1.claimed.Nodup
  entries : ∀ property ∈ state.2, ∃ getter ∈ progress.getters,
    property = ⟨getter.name, getter.typeSignature, true, (find? progress.setters getter.name).isSome, getter.doc⟩
  matching : ∀ setter ∈ progress.setters, setter.name ∈ names →
    ∃ getter ∈ progress.getters, getter.name = setter.name ∧ Accessor.Matches owner getter setter

namespace Merged

variable {owner : String} {progress : MethodsProgress} {names : List String}
  {before after : MethodsProgress × List MemberDescriptor} {next : String}

/-- One more name of a property keeps what the merged properties are. -/
theorem step (merged : Merged owner progress names before) (once : (progress.setters.map (·.name)).Nodup)
    (listed : next ∈ progress.getters.map (·.name) ∨ next ∈ progress.setters.map (·.name))
    (run : addProperty owner before next = .ok after) : Merged owner progress (names ++ [next]) after := by
  obtain ⟨getter, found, matched, free, rfl⟩ := addProperty_cases run (by rwa [merged.getters, merged.setters])
  rw [merged.getters] at found
  rw [merged.setters] at matched ⊢
  obtain ⟨member, rfl⟩ := find?_eq_some found
  refine { merged with
    order := by rw [List.map_append, merged.order, List.map_singleton]
    claimed := ?_
    distinct := List.nodup_cons.mpr ⟨free, merged.distinct⟩
    entries := ?_
    matching := ?_ }
  · rw [← List.append_assoc]
    exact (merged.claimed.cons _).trans (List.perm_append_singleton _ _).symm
  · simp only [List.mem_append, List.mem_singleton, or_imp, forall_and, forall_eq]
    exact ⟨merged.entries, getter, member, rfl⟩
  · intro setter inside named
    rcases List.mem_append.mp named with earlier | now
    · exact merged.matching setter inside earlier
    · rw [List.mem_singleton] at now
      exact ⟨getter, member, now.symm, matched setter (now ▸ find?_of_mem once inside)⟩

/-- Names of properties are merged one after the other. -/
theorem ofNames {functions : List FunctionItem} {accessors : List Accessor}
    (records : Records owner functions accessors progress) (listed : names ⊆ progress.properties)
    (merge : names.foldlM (addProperty owner) (progress, []) = .ok after) : Merged owner progress names after := by
  refine Outcome.foldlM_history (Merged owner progress) ?_ ?_ merge
  · intro past before next member after merged run
    refine merged.step records.settersOnce ?_ run
    have named : next ∈ (accessors.map (·.name)).eraseDups := records.properties ▸ listed member
    obtain ⟨accessor, inside, rfl⟩ := List.mem_map.mp (List.mem_eraseDups.mp named)
    rw [records.getters, records.setters]
    refine (records.getter_or_setter inside).imp ?_ ?_ <;>
      exact fun own => List.mem_map_of_mem (List.mem_filter.mpr ⟨inside, own⟩)
  · exact ⟨rfl, rfl, rfl, by rw [List.append_nil], records.distinct, by simp, by simp⟩

/-- The names of all properties are merged one after the other. -/
theorem run {functions : List FunctionItem} {accessors : List Accessor}
    (records : Records owner functions accessors progress)
    (merge : progress.properties.foldlM (addProperty owner) (progress, []) = .ok after) :
    Merged owner progress progress.properties after :=
  ofNames records (List.Subset.refl _) merge

end Merged

/-- Records and the merge of their properties account for the accessors. -/
theorem merges {owner : String} {functions : List FunctionItem} {accessors : List Accessor} {progress : MethodsProgress}
    {state : MethodsProgress × List MemberDescriptor} (records : Records owner functions accessors progress)
    (merged : Merged owner progress progress.properties state) : Accessor.Merges owner accessors state.2 := by
  have order : state.2.map (·.name) = (accessors.map (·.name)).eraseDups := merged.order.trans records.properties
  have isGetter {getter : Accessor} (member : getter ∈ progress.getters) :
      getter ∈ accessors ∧ getter.isGetter = true := List.mem_filter.mp (records.getters ▸ member)
  refine ⟨order, ?_, ?_, records.setters ▸ records.settersOnce, ?_⟩
  · rw [← records.getters]
    have once : (state.2.map (·.name)).Nodup := by
      rw [merged.order]
      exact ((merged.claimed.nodup_iff.mp merged.distinct).of_append_right)
    refine (List.perm_ext_iff_of_nodup records.gettersOnce once).mpr fun name => ⟨fun ofGetter => ?_, fun listed => ?_⟩
    · obtain ⟨getter, member, rfl⟩ := List.mem_map.mp ofGetter
      rw [order, List.mem_eraseDups]
      exact List.mem_map_of_mem (isGetter member).1
    · obtain ⟨property, member, rfl⟩ := List.mem_map.mp listed
      obtain ⟨getter, inside, rfl⟩ := merged.entries property member
      exact List.mem_map_of_mem inside
  · intro property member
    obtain ⟨getter, inside, rfl⟩ := merged.entries property member
    refine ⟨getter, (isGetter inside).1, (isGetter inside).2, ?_⟩
    congr 1
    rw [Bool.eq_iff_iff, find?_isSome, records.setters]
    simp [and_assoc]
  · intro setter member isSetter
    have inside : setter ∈ progress.setters := records.setters ▸ List.mem_filter.mpr ⟨member, isSetter⟩
    have named : setter.name ∈ progress.properties := by
      rw [records.properties, List.mem_eraseDups]
      exact List.mem_map_of_mem member
    obtain ⟨getter, ofGetter, sameName, matched⟩ := merged.matching setter inside named
    exact ⟨getter, (isGetter ofGetter).1, (isGetter ofGetter).2, sameName, matched⟩

end MethodsProgress

namespace MethodsDescriptor

/-- The names of the methods, the properties and the class attributes. -/
def names (block : MethodsDescriptor) : List String :=
  block.methods.map (·.callable.name) ++ block.properties.map (·.name) ++ block.classAttributes.map (·.name)

/-- A description accounts for the functions of a block: each that is not skipped is of one kind; the methods and the class
attributes are those of their kinds, in the order of the functions; the properties merge the accessors; no name is used
twice; and there is one constructor at most. -/
structure Accounts (functions : List FunctionItem) (block : MethodsDescriptor) : Prop where
  classified : ∀ function ∈ functions, function.isSkipped = true ∨ function.kind?.isSome = true
  methods : Lists (MethodsProgress.IsMethod block.targetIdentity) MethodKind.isMethod functions block.methods
  classAttributes : Lists (MethodsProgress.IsClassAttribute block.targetIdentity) MethodKind.isClassAttribute functions
    block.classAttributes
  properties : ∃ accessors,
    Lists (fun function accessor => Accessor.ofFunction block.targetIdentity function = .ok accessor)
      MethodKind.isAccessor functions accessors ∧ Accessor.Merges block.targetIdentity accessors block.properties
  distinct : block.names.Nodup
  constructors : (block.methods.filter fun method => method.kind = .constructor).length ≤ 1

/-- Methods of different names have one constructor at most, for every constructor has the same name. -/
theorem constructors_le_one {owner : String} {functions : List FunctionItem} {methods : List MethodDescriptor}
    (lists : Lists (MethodsProgress.IsMethod owner) MethodKind.isMethod functions methods)
    (distinct : (methods.map (·.callable.name)).Nodup) :
    (methods.filter fun method => method.kind = .constructor).length ≤ 1 := by
  have once := distinct.sublist ((List.filter_sublist (p := fun method => method.kind = .constructor)).map _)
  have named : ∀ name ∈ (methods.filter fun method => method.kind = .constructor).map (·.callable.name),
      name = CallableDescriptor.constructorName := by
    intro name listed
    obtain ⟨method, member, rfl⟩ := List.mem_map.mp listed
    obtain ⟨inside, isConstructor⟩ := List.mem_filter.mp member
    obtain ⟨function, -, -, -, described⟩ := lists.exists_of_mem inside
    rw [of_decide_eq_true isConstructor] at described
    simp only [CallableDescriptor.ofMethod, CallableDescriptor.ofMethodWith, Outcome.bind_eq_ok, if_true,
      Outcome.pure_eq_ok] at described
    obtain ⟨_, -, _, -, _, -, same⟩ := described
    rw [← same]
  rw [List.eq_replicate_of_mem named, List.nodup_replicate, List.length_map] at once
  exact once

/-- Every block that is described is accounted for. -/
theorem ofImpl_accounts {block : ImplItem} {descriptor : MethodsDescriptor}
    (described : ofImpl block = .ok descriptor) :
    descriptor.targetIdentity = block.targetName ∧ descriptor.Accounts block.functions := by
  simp only [ofImpl] at described
  split at described
  · simp at described
  · simp only [Outcome.bind_eq_ok, Outcome.pure_eq_ok] at described
    obtain ⟨progress, read, ⟨last, properties⟩, merge, rfl⟩ := described
    obtain ⟨accessors, records⟩ := MethodsProgress.Records.run read
    have merged := MethodsProgress.Merged.run records merge
    have distinct := merged.claimed.nodup_iff.mp merged.distinct
    rw [(records.claimed.append_right _).nodup_iff, ← merged.order] at distinct
    refine ⟨rfl, records.classified, records.methods, records.classAttributes,
      ⟨accessors, records.halves, MethodsProgress.merges records merged⟩, ?_, ?_⟩
    · refine List.Perm.nodup_iff ?_ |>.mp distinct
      rw [List.append_assoc, names, List.append_assoc]
      exact List.perm_append_comm.append_left _
    · exact constructors_le_one records.methods distinct.of_append_left.of_append_left

/-- A block in which the setter of a property, for an option, stands before its getter is accounted for. -/
theorem ofImpl_accounts_setterFirst :
    ∃ items, parse
        "impl A \x7b #[setter] fn b(c: Option<d>); #[new] fn e(); #[getter] fn get_b() -> d; \x7d" = .ok items ∧
      ∃ block ∈ items.filterMap Item.impl?, ∃ descriptor, ofImpl block = .ok descriptor ∧
        descriptor.names = ["__new__", "b"] ∧
        descriptor.targetIdentity = block.targetName ∧ descriptor.Accounts block.functions := by
  have passed : (parse
      "impl A \x7b #[setter] fn b(c: Option<d>); #[new] fn e(); #[getter] fn get_b() -> d; \x7d").toOption.any
        (fun items => (items.filterMap Item.impl?).any fun block =>
          (ofImpl block).toOption.any fun descriptor => descriptor.names = ["__new__", "b"]) = true := by
    decide +kernel
  simp only [Option.any_eq_true, List.any_eq_true, Outcome.toOption_eq_some, decide_eq_true_eq] at passed
  obtain ⟨items, parsed, block, member, descriptor, described, names⟩ := passed
  exact ⟨items, parsed, block, member, descriptor, described, names, ofImpl_accounts described⟩

end MethodsDescriptor

end Exposure
