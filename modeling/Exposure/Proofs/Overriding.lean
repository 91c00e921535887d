import Exposure.Proofs.Defaulting
import Exposure.Proofs.Recording

/-!
# The overrides of a list of parameters

`Signature.Progress.Traces` is what a run over the elements of an override keeps: the state reflects the elements that have
been read, and every descriptor answers the element that named it. `Signature.Overrides` says, without a run, which lists of
elements are an override of a list of parameters; an analysis accepts exactly those.
-/

namespace Exposure.Signature

open SignatureEntry (beforeStar fromStar)

namespace Progress

variable {declared : List Parameter} {progress before after : Progress} {entry : SignatureEntry} {options : Options}
  {owner : Option String}

/-- A descriptor answers a named element: it describes a declared parameter of that name with the default of the element. -/
inductive Answers (declared : List Parameter) (options : Options) (owner : Option String) (entry : SignatureEntry) :
    ParameterDescriptor → Prop
  | intro {parameter : Parameter} {passing : PassingKind} (member : parameter ∈ declared)
      (named : entry.name? = some parameter.name) (takesOne : passing.isVariadic = false ↔ entry.kind = .named) :
      Answers declared options owner entry (describe owner parameter passing (entry.default? options))

/-- Parameters that are passed by position answer the same elements when they are passed by position only. -/
theorem forall₂_answers_slashed {elements : List SignatureEntry} {described : List ParameterDescriptor}
    (positional : ∀ descriptor ∈ described, descriptor.passing.isPositional = true)
    (answered : List.Forall₂ (Answers declared options owner) elements described) :
    List.Forall₂ (Answers declared options owner) elements
      (described.map fun descriptor => { descriptor with passing := .positionalOnly }) := by
  induction answered with
  | nil => exact .nil
  | cons first _ step =>
    obtain ⟨byPosition, others⟩ := List.forall_mem_cons.mp positional
    obtain @⟨parameter, passing, member, named, takesOne⟩ := first
    have takesOneBefore : passing.isVariadic = false := by
      cases passing <;> first | rfl | exact Bool.noConfusion byPosition
    have ofNamed := takesOne.mp takesOneBefore
    exact .cons ⟨member, named, fun _ => ofNamed, fun _ => rfl⟩ (step others)

namespace Reads

/-- A default of a named element is one more flag of the group that its parameter is passed in. -/
theorem flags (opens : before.OpensPositional) (reads : Reads declared options owner before entry after) :
    after.flags (·.isPositional) =
        before.flags (·.isPositional) ++ (if before.star.isSome then [] else (entry.flag? options).toList) ∧
      after.flags (· = .keywordOnly) =
        before.flags (· = .keywordOnly) ++ (if before.star.isSome then (entry.flag? options).toList else []) := by
  rw [SignatureEntry.flag?, SignatureEntry.kind, SignatureEntry.default?]
  cases reads with
  | slash form admits =>
    obtain ⟨isOpen, noStar, -, -⟩ := admits
    -- The slash changes how parameters are passed by position, not that they are.
    have kept : before.described.filter (·.passing.isPositional) = before.described :=
      List.filter_eq_self.mpr (opens isOpen noStar)
    have noKeyword : before.described.filter (·.passing = .keywordOnly) = [] := by
      apply List.filter_eq_nil_iff.mpr
      intro descriptor member same
      exact opens.noKeyword isOpen noStar descriptor member (of_decide_eq_true same)
    simp only [Progress.flags, kept, noKeyword]
    simp [form, noStar, EntryForm.kind, List.filter_map, Function.comp_def, PassingKind.isPositional]
  | star form admits =>
    obtain ⟨isOpen, noStar⟩ := admits
    simp [Progress.flags, form, noStar, EntryForm.kind]
  | variadicPositional form located admits =>
    simp [form, EntryForm.kind, Progress.flags, adding, noting, describe, PassingKind.isPositional]
  | variadicKeyword form located admits =>
    simp [form, EntryForm.kind, Progress.flags, adding, noting, describe, PassingKind.isPositional]
  | named form located admits =>
    cases starred : before.star <;>
      simp [form, starred, EntryForm.kind, Progress.flags, adding, noting, describe, PassingKind.isPositional]

/-- The parameter that an element names answers it. -/
theorem answers {elements : List SignatureEntry} (opens : before.OpensPositional)
    (answered : List.Forall₂ (Answers declared options owner) elements before.described)
    (reads : Reads declared options owner before entry after) :
    List.Forall₂ (Answers declared options owner) (elements ++ if entry.name?.isSome then [entry] else [])
      after.described := by
  have added {name : String} {index : Nat} {parameter : Parameter} {passing : PassingKind} {default : Option String}
      (located : before.locate declared entry name = .ok (index, parameter)) (named : entry.name? = some name)
      (takesOne : passing.isVariadic = false ↔ entry.kind = .named) (given : entry.default? options = default) :
      List.Forall₂ (Answers declared options owner) (elements ++ if entry.name?.isSome then [entry] else [])
        (before.described ++ [describe owner parameter passing default]) := by
    obtain ⟨same, -, listed⟩ := locate_eq_ok located
    rw [if_pos (by simp [named]), ← given]
    exact List.rel_append answered (.cons ⟨listed, same ▸ named, takesOne⟩ .nil)
  rw [SignatureEntry.name?] at added ⊢
  rw [SignatureEntry.kind, SignatureEntry.default?] at added
  cases reads with
  | slash form admits =>
    simpa [form] using forall₂_answers_slashed (opens admits.1 admits.2.1) answered
  | star form admits => simpa [form] using answered
  | variadicPositional form located admits =>
    apply added located <;> simp [form, EntryForm.kind, PassingKind.isVariadic]
  | variadicKeyword form located admits =>
    apply added located <;> simp [form, EntryForm.kind, PassingKind.isVariadic]
  | named form located admits =>
    apply added located <;> simp [form, EntryForm.kind]
    split <;> rfl

end Reads

/-- What the elements read so far have led to. -/
structure Traces (declared : List Parameter) (options : Options) (owner : Option String) (past : List SignatureEntry)
    (progress : Progress) : Prop where
  sound : progress.Sound
  ordered : Ordered declared progress.seen progress.last
  phase : (past.map (·.kind)).foldlM Phase.next .opening = some progress.phase
  star : progress.star = past.find? (·.isStar)
  seen : progress.seen.reverse = past.filterMap (·.name?)
  answers : List.Forall₂ (Answers declared options owner) (past.filter (·.name?.isSome)) progress.described
  positional : progress.flags (·.isPositional) = SignatureEntry.flags options (beforeStar past)
  keyword : progress.flags (· = .keywordOnly) = SignatureEntry.flags options (fromStar past)

namespace Traces

variable {past : List SignatureEntry}

theorem start : Traces declared options owner [] start where
  sound := start_sound
  ordered := .nil
  phase := rfl
  star := rfl
  seen := rfl
  answers := .nil
  positional := rfl
  keyword := rfl

/-- One more element that is read leads one step further. -/
theorem read (traces : Traces declared options owner past before)
    (step : before.read declared options owner entry = .ok after) :
    Traces declared options owner (past ++ [entry]) after := by
  have reads := read_eq_ok_iff.mp step
  have opens := traces.sound.opensPositional
  obtain ⟨positional, keyword⟩ := reads.flags opens
  exact {
    sound := traces.sound.read step
    ordered := reads.ordered traces.ordered
    phase := by
      rw [List.map_append, List.foldlM_append, traces.phase]
      simpa using reads.next opens
    star := by
      rw [reads.star_eq, traces.star, List.find?_append, List.find?_singleton]
    seen := by
      rw [reads.seen_eq, List.filterMap_append, ← traces.seen]
      cases named : entry.name? <;> simp [named]
    answers := by
      rw [List.filter_append, List.filter_singleton, cond_eq_ite]
      exact reads.answers opens traces.answers
    positional := by
      rw [positional, traces.positional, SignatureEntry.flags_beforeStar_concat, traces.star]
    keyword := by
      rw [keyword, traces.keyword, SignatureEntry.flags_fromStar_concat, traces.star] }

/-- All elements together lead where a run over them ends. -/
theorem run {entries : List SignatureEntry} {last : Progress}
    (read : entries.foldlM (Progress.read declared options owner) Progress.start = .ok last) :
    Traces declared options owner entries last :=
  Outcome.foldlM_history (Traces declared options owner) (fun _ _ _ _ _ traces step => traces.read step) .start read

/-- The next of the declared names can be located. -/
theorem exists_locate (traces : Traces declared options owner past before)
    (distinct : (declared.map (·.name)).Nodup) {name : String} {behind : List String}
    (names : declared.map (·.name) = past.filterMap (·.name?) ++ name :: behind) :
    ∃ found, before.locate declared entry name = .ok found := by
  rw [← traces.seen] at names
  have fresh : name ∉ before.seen := by
    rw [names] at distinct
    intro member
    exact (List.disjoint_of_nodup_append distinct) (List.mem_reverse.mpr member) List.mem_cons_self
  -- As many names stand before this one as have been read.
  have place : placeIn declared name = before.seen.length := by
    rw [placeIn, names, List.idxOf_append_of_notMem (by simpa using fresh), List.idxOf_cons_self,
      List.length_reverse, Nat.add_zero]
  have earlier : ∀ other ∈ before.seen, placeIn declared other < before.seen.length := by
    intro other member
    rw [placeIn, names, List.idxOf_append_of_mem (List.mem_reverse.mpr member), ← List.length_reverse]
    exact List.idxOf_lt_length_of_mem (List.mem_reverse.mpr member)
  have inside : placeIn declared name < declared.length := by
    rw [← List.length_map (f := Parameter.name), names, place]
    simp
  have late : before.last ≤ placeIn declared name := by
    rw [traces.ordered.latest, place]
    cases seen : before.seen with
    | nil => exact Nat.zero_le _
    | cons latest others =>
      rw [seen] at earlier
      exact Nat.le_of_lt (earlier latest List.mem_cons_self)
  exact ⟨(_, declared[placeIn declared name]),
    locate_eq_ok_iff.mpr ⟨fresh, rfl, List.getElem?_eq_getElem inside, late⟩⟩

/-- A run over elements that name every declared parameter in order, and stand in order themselves, has an end. -/
theorem exists_run (options : Options) (owner : Option String) {entries : List SignatureEntry} {reached : Phase}
    (distinct : (declared.map (·.name)).Nodup) (names : entries.filterMap (·.name?) = declared.map (·.name))
    (goes : (entries.map (·.kind)).foldlM Phase.next .opening = some reached) :
    ∃ last, entries.foldlM (Progress.read declared options owner) Progress.start = .ok last := by
  apply Outcome.exists_foldlM_eq_ok
  intro past next rest before split read
  -- Wherever the run comes to, the next element may stand there, and names the next parameter if it names one.
  have traces := run read
  rw [split] at names goes
  apply exists_read
  · simp only [List.map_append, List.foldlM_append, traces.phase, List.map_cons, List.foldlM_cons,
      Option.bind_eq_bind, Option.bind_some, Option.bind_eq_some_iff] at goes
    obtain ⟨middle, one, -⟩ := goes
    exact ⟨middle, one⟩
  · intro name named
    rw [List.filterMap_append, List.filterMap_cons_some named] at names
    exact traces.exists_locate distinct names.symm

end Traces

end Progress

variable {parameters : List Parameter} {entries : List SignatureEntry} {options : Options} {owner : Option String}

/-- Overrides describe parameters exactly if they name each of them in order, and their elements stand in order. -/
theorem exists_explicitParameters_iff (distinct : (parameters.map (·.name)).Nodup) :
    (∃ described, explicitParameters parameters entries options owner = .ok described) ↔
      entries.filterMap (·.name?) = parameters.map (·.name) ∧ entries.map (·.kind) ∈ EntryKind.order.matches' := by
  simp only [explicitParameters_eq_ok_iff]
  rw [← Phase.remaining, Phase.mem_remaining_iff]
  constructor
  · rintro ⟨described, last, read, ends, complete, -⟩
    have traces := Progress.Traces.run read
    exact ⟨traces.seen ▸ traces.ordered.reverse_eq distinct complete, last.phase, traces.phase, ends⟩
  · rintro ⟨names, reached, goes, ends⟩
    obtain ⟨last, read⟩ := Progress.Traces.exists_run options owner distinct names goes
    have traces := Progress.Traces.run read
    have same : last.phase = reached := Option.some.inj (traces.phase.symm.trans goes)
    refine ⟨last.described, last, read, same ▸ ends, fun parameter member => ?_, rfl⟩
    rw [← List.mem_reverse, traces.seen, names]
    exact List.mem_map_of_mem member

/-- What an override describes has its defaults last if the elements of the override have. -/
theorem checkDefaultOrder_explicit {recorded : String → Prop}
    (records : ∀ name, (options.defaultFor? name).isSome = true ↔ recorded name)
    {described : List ParameterDescriptor}
    (run : explicitParameters parameters entries options owner = .ok described) {done : Unit} :
    checkDefaultOrder parameters false false described = .ok done ↔
      SignatureEntry.DefaultsLast recorded (beforeStar entries) ∧
        SignatureEntry.DefaultsLast recorded (fromStar entries) := by
  obtain ⟨last, read, -, -, rfl⟩ := explicitParameters_eq_ok_iff.mp run
  have traces := Progress.Traces.run read
  rw [checkDefaultOrder_eq_ok_iff, ← isLast_flags_iff, ← isLast_flags_iff, traces.positional, traces.keyword,
    SignatureEntry.isLast_flags_iff records, SignatureEntry.isLast_flags_iff records]

/-- What the elements of an override must be for a list of parameters. -/
structure Overrides (parameters : List Parameter) (options : Options) (entries : List SignatureEntry) : Prop where
  namesDistinct : ((visible parameters).map (·.name)).Nodup
  stubsReadable : ReadsStubs (visible parameters)
  namesInOrder : entries.filterMap (·.name?) = (visible parameters).map (·.name)
  kindsInOrder : entries.map (·.kind) ∈ EntryKind.order.matches'
  positionalDefaultsLast :
    SignatureEntry.DefaultsLast (IsRecorded options (visible parameters)) (beforeStar entries)
  keywordDefaultsLast : SignatureEntry.DefaultsLast (IsRecorded options (visible parameters)) (fromStar entries)

/-- An override is accepted exactly if it names the parameters that callers pass, each once and in order, puts its elements
in order, and has its defaults last before the star and behind it. -/
theorem exists_analyze_iff_overrides (given : options.signature = some entries) :
    (∃ signature, analyze parameters options owner = .ok signature) ↔ Overrides parameters options entries := by
  simp only [analyze_eq_ok_iff]
  constructor
  · rintro ⟨signature, recorded, described, stubs, distinct, yields, order, rfl⟩
    have same := withStubDefaults_signature stubs
    cases yields with
    | implicit absent => simp [← same, absent] at given
    | explicit present run =>
      obtain rfl := Option.some.inj (present.symm.trans (same.trans given))
      obtain ⟨names, kinds⟩ := (exists_explicitParameters_iff distinct).mp ⟨described, run⟩
      obtain ⟨positional, keyword⟩ :=
        (checkDefaultOrder_explicit (isSome_defaultFor?_iff distinct stubs) run).mp order
      exact ⟨distinct, exists_withStubDefaults_iff.mp ⟨recorded, stubs⟩, names, kinds, positional, keyword⟩
  · rintro ⟨distinct, readable, names, kinds, positional, keyword⟩
    obtain ⟨recorded, stubs⟩ := exists_withStubDefaults_iff.mpr readable
    obtain ⟨described, run⟩ : ∃ described, explicitParameters (visible parameters) entries recorded owner = .ok described :=
      (exists_explicitParameters_iff distinct).mpr ⟨names, kinds⟩
    have order : checkDefaultOrder (visible parameters) false false described = .ok () :=
      (checkDefaultOrder_explicit (isSome_defaultFor?_iff distinct stubs) run).mpr ⟨positional, keyword⟩
    have present := (withStubDefaults_signature stubs).trans given
    exact ⟨_, recorded, described, stubs, distinct, .explicit present run, order, rfl⟩

/-- An override with every marker, a default and both variadic parameters is accepted. -/
theorem exists_analyze_iff_overrides_everyMarker :
    let parameters : List Parameter := ["self", "a", "b", "c", "d", "e"].map fun name => ⟨name, none, [], .start⟩
    let one : List TokenTree := [.leaf ⟨.number, "1", .start⟩]
    let forms : List EntryForm := [.named "a" none, .positionalMarker, .named "b" none, .variadicPositional "c",
      .named "d" (some one), .variadicKeyword "e"]
    let entries : List SignatureEntry := forms.map fun form => ⟨form, .start⟩
    Overrides parameters { Options.empty with signature := some entries } entries := by
  intro parameters one forms entries
  have accepted :
      (analyze parameters { Options.empty with signature := some entries } none).toOption.isSome = true := by
    decide +kernel
  obtain ⟨signature, run⟩ := Option.isSome_iff_exists.mp accepted
  exact (exists_analyze_iff_overrides rfl).mp ⟨signature, Outcome.toOption_eq_some.mp run⟩

end Exposure.Signature
