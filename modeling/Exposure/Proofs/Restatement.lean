import Exposure.Proofs.Alignment
import Mathlib.Data.List.DropRight

/-!
# An override that says nothing new

Without an override the parameters are described in one pass over them; with one, in a pass over its elements. For an
override that only lists the parameters, with `None` as the default of those in the trailing run of optional ones, both
passes come to the parameters paired with their fallbacks, and so the analyses have one outcome.
-/

namespace Exposure

namespace SignatureEntry

/-- An element that names a parameter, and no more. -/
def IsBare (parameter : Parameter) (entry : SignatureEntry) : Prop := entry.form = .named parameter.name none

/-- An element that names a parameter and gives it the default `None`. -/
def IsNoned (parameter : Parameter) (entry : SignatureEntry) : Prop :=
  ∃ position, entry.form = .named parameter.name (some [.leaf ⟨.ident, "None", position⟩])

end SignatureEntry

namespace Signature

open SignatureEntry (IsBare IsNoned)

/-- An override names parameters in order, with the default `None` for exactly the trailing run of optional ones. -/
inductive Restates (parameters : List Parameter) : List SignatureEntry → Prop
  | intro {required optional : List SignatureEntry}
      (bare : List.Forall₂ IsBare (parameters.rdropWhile isOptional) required)
      (noned : List.Forall₂ IsNoned (parameters.rtakeWhile isOptional) optional) :
      Restates parameters (required ++ optional)

/-- Such an override, with all its elements at one position. -/
def restatement (position : Position) (parameters : List Parameter) : List SignatureEntry :=
  ((parameters.rdropWhile isOptional).map fun parameter => ⟨.named parameter.name none, position⟩) ++
    (parameters.rtakeWhile isOptional).map fun parameter =>
      ⟨.named parameter.name (some [.leaf ⟨.ident, "None", position⟩]), position⟩

theorem restates_restatement (position : Position) (parameters : List Parameter) :
    Restates parameters (restatement position parameters) := by
  apply Restates.intro
  · exact List.forall₂_map_right_iff.mpr (List.forall₂_same.mpr fun _ _ => rfl)
  · exact List.forall₂_map_right_iff.mpr (List.forall₂_same.mpr fun _ _ => ⟨position, rfl⟩)

/-- The defaults that parameters have when none is recorded. -/
def fallbacks (parameters : List Parameter) : List (Option String) :=
  List.replicate (requiredCount parameters) none ++
    List.replicate (parameters.length - requiredCount parameters) (some "None")

/-- Parameters that are passed by position or by name, each with its default. -/
def plain (owner : Option String) (parameters : List Parameter) (defaults : List (Option String)) :
    List ParameterDescriptor :=
  List.zipWith (fun parameter default => describe owner parameter .positionalOrKeyword default) parameters defaults

variable {parameters : List Parameter} {entries : List SignatureEntry} {options : Options} {owner : Option String}

theorem requiredCount_le (parameters : List Parameter) : requiredCount parameters ≤ parameters.length := Nat.sub_le _ _

theorem length_rtakeWhile_isOptional (parameters : List Parameter) :
    (parameters.rtakeWhile isOptional).length = parameters.length - requiredCount parameters := by
  have bounded := (List.takeWhile_prefix isOptional (l := parameters.reverse)).length_le
  rw [List.length_reverse] at bounded
  rw [List.rtakeWhile, List.length_reverse, requiredCount, Nat.sub_sub_self bounded]

theorem length_rdropWhile_isOptional (parameters : List Parameter) :
    (parameters.rdropWhile isOptional).length = requiredCount parameters := by
  have split := congrArg List.length (List.rdropWhile_append_rtakeWhile (p := isOptional) (l := parameters))
  rw [List.length_append, length_rtakeWhile_isOptional] at split
  have bounded := requiredCount_le parameters
  omega

/-- Without recorded texts the parameters are described with their fallbacks. -/
theorem implicitParameters_of_silent (silent : ∀ name, options.defaultFor? name = none) :
    implicitParameters parameters options owner = plain owner parameters (fallbacks parameters) := by
  have bounded := requiredCount_le parameters
  apply List.ext_getElem
  · simp [implicitParameters, plain, fallbacks, bounded]
  · intro index inside inside'
    by_cases optional : requiredCount parameters ≤ index
    · simp [implicitParameters, plain, fallbacks, silent, optional, List.getElem_append_right]
    · simp [implicitParameters, plain, fallbacks, silent, optional, List.getElem_append_left, Nat.lt_of_not_le]

namespace Restates

theorem named (restates : Restates parameters entries) :
    List.Forall₂ (fun parameter entry => ∃ expression, entry.form = .named parameter.name expression)
      parameters entries := by
  cases restates with
  | intro bare noned =>
    have split := List.rdropWhile_append_rtakeWhile (p := isOptional) (l := parameters)
    rw [← split]
    apply List.rel_append
    · exact bare.imp fun _ _ form => ⟨none, form⟩
    · apply noned.imp
      rintro parameter entry ⟨position, form⟩
      exact ⟨some _, form⟩

theorem names (restates : Restates parameters entries) :
    entries.filterMap (·.name?) = parameters.map (·.name) := by
  have named := restates.named
  clear restates
  induction named with
  | nil => rfl
  | cons first _ step =>
    obtain ⟨expression, form⟩ := first
    rw [List.filterMap_cons_some (by rw [SignatureEntry.name?, form]), List.map_cons, step]

theorem kind_eq (restates : Restates parameters entries) : ∀ entry ∈ entries, entry.kind = .named := by
  intro entry member
  obtain ⟨parameter, -, expression, form⟩ := Outcome.exists_of_forall₂ restates.named member
  rw [SignatureEntry.kind, form]
  rfl

/-- The elements give the fallbacks as defaults. -/
theorem defaults (silent : ∀ name, options.defaultFor? name = none) (restates : Restates parameters entries) :
    entries.map (·.default? options) = fallbacks parameters := by
  cases restates with
  | @intro required optional bare noned =>
    have ofRequired : required.map (·.default? options) = List.replicate (requiredCount parameters) none := by
      apply List.eq_replicate_iff.mpr
      refine ⟨by rw [List.length_map, ← bare.length_eq, length_rdropWhile_isOptional], List.forall_mem_map.mpr ?_⟩
      intro entry member
      obtain ⟨parameter, -, form⟩ := Outcome.exists_of_forall₂ bare member
      rw [SignatureEntry.default?, form]
      exact silent parameter.name
    have ofOptional : optional.map (·.default? options) =
        List.replicate (parameters.length - requiredCount parameters) (some "None") := by
      apply List.eq_replicate_iff.mpr
      refine ⟨by rw [List.length_map, ← noned.length_eq, length_rtakeWhile_isOptional], List.forall_mem_map.mpr ?_⟩
      intro entry member
      obtain ⟨parameter, -, position, form⟩ := Outcome.exists_of_forall₂ noned member
      have written : DefaultValue.render [.leaf ⟨.ident, "None", position⟩] = some "None" := by
        simp [DefaultValue.render, DefaultValue.renderLeaf, DefaultValue.renderWord]
      have proper : "None".isEmpty = false := by decide
      simp [SignatureEntry.default?, form, Progress.defaultOf, silent, written, Option.filter_some, proper]
    rw [List.map_append, ofRequired, ofOptional, fallbacks]

end Restates

/-- Named elements alone describe parameters that are passed by position or by name. -/
theorem Progress.passing_of_named {last : Progress} (isNamed : ∀ entry ∈ entries, entry.kind = .named)
    (read : entries.foldlM (Progress.read parameters options owner) .start = .ok last) :
    ∀ descriptor ∈ last.described, descriptor.passing = .positionalOrKeyword := by
  have kept := Outcome.foldlM_invariant
    (fun progress => progress.star = none ∧
      ∀ descriptor ∈ progress.described, descriptor.passing = .positionalOrKeyword)
    (fun before next member after => ?_) ⟨rfl, List.forall_mem_nil _⟩ read
  · exact kept.2
  · rintro ⟨noStar, others⟩ step
    have named := isNamed next member
    rw [SignatureEntry.kind] at named
    cases read_eq_ok_iff.mp step with
    | named form located admits =>
      refine ⟨noStar, List.forall_mem_append.mpr ⟨others, List.forall_mem_singleton.mpr ?_⟩⟩
      simp [describe, noStar]
    | slash form admits => simp [form, EntryForm.kind] at named
    | star form admits => simp [form, EntryForm.kind] at named
    | variadicPositional form located admits => simp [form, EntryForm.kind] at named
    | variadicKeyword form located admits => simp [form, EntryForm.kind] at named

/-- Descriptors that describe parameters in order, and answer elements in order, pair the parameters with the defaults of
the elements. -/
theorem eq_plain_of_answers {declared : List Parameter} {described : List ParameterDescriptor}
    (describes : List.Forall₂ (Describes owner) parameters described)
    (answers : List.Forall₂ (Progress.Answers declared options owner) entries described)
    (passing : ∀ descriptor ∈ described, descriptor.passing = .positionalOrKeyword) :
    described = plain owner parameters (entries.map (·.default? options)) := by
  induction describes generalizing entries with
  | nil => rfl
  | cons first _ step =>
    cases answers with
    | cons answer others =>
      obtain ⟨byEither, ofOthers⟩ := List.forall_mem_cons.mp passing
      obtain ⟨named, typed⟩ := first
      rw [plain, List.map_cons, List.zipWith_cons_cons, ← plain, ← step others ofOthers]
      cases answer with
      | intro member _ _ =>
        simp only [describe] at named typed byEither ⊢
        rw [named, typed, byEither]

/-- An override that says nothing new describes the parameters with their fallbacks. -/
theorem explicitParameters_of_restates (given : options.signature = some entries)
    (silent : ∀ name, options.defaultFor? name = none) (distinct : (parameters.map (·.name)).Nodup)
    (restates : Restates parameters entries) :
    explicitParameters parameters entries options owner = .ok (plain owner parameters (fallbacks parameters)) := by
  -- The override is accepted, for it names every parameter in order and has no markers; what it yields is then read off
  -- the parameters in one half and off the elements in the other.
  have kinds : entries.map (·.kind) = List.replicate entries.length .named :=
    List.eq_replicate_iff.mpr ⟨List.length_map _, List.forall_mem_map.mpr restates.kind_eq⟩
  obtain ⟨described, run⟩ : ∃ described, explicitParameters parameters entries options owner = .ok described :=
    (exists_explicitParameters_iff distinct).mpr ⟨restates.names, kinds ▸ Phase.replicate_named_mem_order _⟩
  have describes := (Yields.explicit given run).describes_inOrder distinct
  obtain ⟨last, read, -, -, rfl⟩ := explicitParameters_eq_ok_iff.mp run
  have answers := (Progress.Traces.run read).answers
  have allNamed : entries.filter (·.name?.isSome) = entries := by
    apply List.filter_eq_self.mpr
    intro entry member
    obtain ⟨parameter, -, expression, form⟩ := Outcome.exists_of_forall₂ restates.named member
    simp [SignatureEntry.name?, form]
  rw [allNamed] at answers
  rw [run, eq_plain_of_answers describes answers (Progress.passing_of_named restates.kind_eq read),
    restates.defaults silent]

/-- Without a text in any stub attribute, reading these attributes leaves the options as they are. -/
theorem withStubDefaults_of_unstubbed {found : List (String × String)}
    (read : Options.stubDefaults parameters = .ok found)
    (unstubbed : ∀ parameter ∈ parameters, ∀ text,
      ¬ StubText (Attribute.stubPieces parameter.attributes) (some text)) :
    withStubDefaults options parameters = .ok options := by
  have nothing : found = [] := by
    apply List.eq_nil_iff_forall_not_mem.mpr
    rintro ⟨name, text⟩ member
    obtain ⟨parameter, listed, -, stub⟩ := ((mem_stubDefaults read).2 name text).mp member
    exact unstubbed parameter listed text stub
  simp [withStubDefaults, read, nothing]

/-- Where no default text is recorded, an analysis without an override has the outcome that it has with an override that
says nothing new, be it a signature or a fault. -/
theorem analyze_restated (noDefaults : options.defaults = [])
    (unstubbed : ∀ parameter ∈ visible parameters, ∀ text,
      ¬ StubText (Attribute.stubPieces parameter.attributes) (some text))
    (restates : Restates (visible parameters) entries) :
    analyze parameters { options with signature := none } owner =
      analyze parameters { options with signature := some entries } owner := by
  have silent (override : Option (List SignatureEntry)) :
      ∀ name, Options.defaultFor? { options with signature := override } name = none := by
    intro name
    simp [Options.defaultFor?, noDefaults]
  -- Both analyses read the stub attributes and check the names first, and fail there with the same fault.
  cases read : Options.stubDefaults (visible parameters) with
  | error fault => simp [analyze, withStubDefaults, read]
  | ok found =>
    have recorded (override : Option (List SignatureEntry)) :
        withStubDefaults { options with signature := override } (visible parameters) =
          .ok { options with signature := override } := withStubDefaults_of_unstubbed read unstubbed
    cases checked : checkDistinct [] (visible parameters) with
    | error fault => simp [analyze, recorded, checked, bind, Except.bind]
    | ok done =>
      obtain ⟨distinct, -⟩ := checkDistinct_eq_ok_iff.mp checked
      simp [analyze, recorded, checked, bind, Except.bind, pure, Except.pure,
        implicitParameters_of_silent (silent none),
        explicitParameters_of_restates rfl (silent (some entries)) distinct restates]

/-- Parameters with a receiver, an interpreter token and an optional type in the middle are analysed alike. -/
theorem analyze_restated_optionalInTheMiddle :
    let optional : TypeExpr := .path [.plain "Option" [.named "i32"]]
    let parameters : List Parameter := [("self", .named "Self"), ("py", .named "Python"), ("a", .named "i32"),
      ("b", optional), ("c", .named "i32"), ("d", optional)].map fun (name, type) => ⟨name, some type, [], .start⟩
    let entries := restatement .start (visible parameters)
    analyze parameters { Options.empty with signature := none } none =
      analyze parameters { Options.empty with signature := some entries } none := by
  intro optional parameters entries
  have unstubbed : ∀ parameter ∈ visible parameters, ∀ text,
      ¬ StubText (Attribute.stubPieces parameter.attributes) (some text) := by
    intro parameter member text stub
    have bare : parameter.attributes = [] := by
      obtain ⟨pair, -, rfl⟩ := List.mem_map.mp (List.mem_of_mem_filter member)
      rfl
    rw [bare] at stub
    cases stub
  have noDefaults : Options.empty.defaults = [] := rfl
  exact analyze_restated noDefaults unstubbed (restates_restatement .start (visible parameters))

end Signature

end Exposure
