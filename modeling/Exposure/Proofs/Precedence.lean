import Exposure.Proofs.Overriding
import Mathlib.Data.List.Pairwise

/-!
# Recorded default texts come first

A default text may be recorded, an override may write an expression, and an optional parameter may fall back to `None`. The
recorded text wins over the others, with one exception: an empty text gives way to an expression, although it stands where
the override writes none, and does not give way to the fallback.
-/

namespace Exposure

namespace SignatureEntry

/-- Elements of distinct names are known by their names. -/
theorem eq_of_name?_eq {entries : List SignatureEntry} (distinct : (entries.filterMap (·.name?)).Nodup)
    {one other : SignatureEntry} (ofOne : one ∈ entries) (ofOther : other ∈ entries) {name : String}
    (named : one.name? = some name) (same : other.name? = some name) : one = other := by
  by_contra apart
  let differ (one other : SignatureEntry) : Prop :=
    ∀ name, one.name? = some name → ∀ name', other.name? = some name' → name ≠ name'
  have pairwise : entries.Pairwise differ := List.pairwise_filterMap.mp distinct
  have symmetric : Std.Symm differ := ⟨fun _ _ apart name ofName name' ofName' => (apart name' ofName' name ofName).symm⟩
  exact pairwise.forall ofOne ofOther apart name named name same rfl

theorem exists_form_of_kind {entry : SignatureEntry} (isNamed : entry.kind = .named) {name : String}
    (named : entry.name? = some name) : ∃ expression, entry.form = .named name expression := by
  rw [kind] at isNamed
  rw [name?] at named
  cases form : entry.form with
  | named name' expression => simpa [form] using named
  | _ => simp [form, EntryForm.kind] at isNamed

end SignatureEntry

namespace Signature

variable {parameters : List Parameter} {options : Options} {owner : Option String} {text : String}

/-- A recorded text is the default of a named element unless it is empty and the element has an expression. -/
theorem Progress.defaultOf_eq_some_iff {name : String} (recorded : options.defaultFor? name = some text)
    (expression : Option (List TokenTree)) :
    defaultOf options name expression = some text ↔ text ≠ "" ∨ expression = none := by
  cases expression with
  | none => simp [defaultOf, recorded]
  | some trees =>
    by_cases empty : text = ""
    · subst empty
      have proper : ((DefaultValue.render trees).filter (!·.isEmpty)).getD placeholder ≠ "" := by
        cases written : (DefaultValue.render trees).filter (!·.isEmpty) with
        | none => decide
        | some found =>
          have nonempty := (Option.filter_eq_some_iff.mp written).2
          intro same
          simp [show found = "" from same] at nonempty
      simpa [defaultOf, recorded, Option.filter_some] using proper
    · simp [defaultOf, recorded, Option.filter_some, empty]

/-- The override writes an expression as the default of a parameter. -/
def Writes (options : Options) (name : String) : Prop :=
  ∃ entries, options.signature = some entries ∧
    ∃ entry ∈ entries, ∃ expression, entry.form = .named name (some expression)

theorem writes_withStubDefaults {recorded : Options} (run : withStubDefaults options parameters = .ok recorded)
    (name : String) : Writes recorded name ↔ Writes options name := by
  rw [Writes, Writes, withStubDefaults_signature run]

/-- What parameters are described as has the texts of the options, unless one is empty and the override writes an
expression. -/
theorem Yields.prefersRecorded {described : List ParameterDescriptor}
    (yields : Yields parameters options owner described) {descriptor : ParameterDescriptor}
    (member : descriptor ∈ described) (takesOne : descriptor.passing.isVariadic = false)
    (found : options.defaultFor? descriptor.name = some text) :
    descriptor.hasDefault = true ∧
      (descriptor.defaultText = some text ↔ text ≠ "" ∨ ¬ Writes options descriptor.name) := by
  cases yields with
  | implicit absent =>
    have unwritten (name : String) : ¬ Writes options name := by
      rintro ⟨entries, given, -⟩
      simp [absent] at given
    obtain ⟨index, inside, rfl⟩ := List.mem_mapIdx.mp member
    have taken : options.defaultFor? parameters[index].name = some text := found
    simp [describe, taken, unwritten]
  | @explicit entries _ present explicit =>
    obtain ⟨last, read, -, -, rfl⟩ := explicitParameters_eq_ok_iff.mp explicit
    have traces := Progress.Traces.run read
    have apart : (entries.filterMap (·.name?)).Nodup :=
      traces.seen ▸ List.nodup_reverse.mpr traces.sound.seenDistinct
    obtain ⟨entry, listed, answers⟩ := Outcome.exists_of_forall₂ traces.answers member
    have inside := List.mem_of_mem_filter listed
    -- No other element has the name of the one that the descriptor answers, so none but this one writes an expression.
    cases answers with
    | @intro parameter passing _ named ofKind =>
      obtain ⟨expression, form⟩ := SignatureEntry.exists_form_of_kind (ofKind.mp takesOne) named
      have written : Writes options parameter.name ↔ expression ≠ none := by
        constructor
        · rintro ⟨entries', given, other, listed', expression', form'⟩
          obtain rfl := Option.some.inj (present.symm.trans given)
          have again : other.name? = some parameter.name := by rw [SignatureEntry.name?, form']
          obtain rfl := SignatureEntry.eq_of_name?_eq apart inside listed' named again
          simp [EntryForm.named.inj (form.symm.trans form')]
        · intro isWritten
          obtain ⟨trees, rfl⟩ := Option.ne_none_iff_exists'.mp isWritten
          exact ⟨entries, present, entry, inside, trees, form⟩
      have given : entry.default? options = Progress.defaultOf options parameter.name expression := by
        rw [SignatureEntry.default?, form]
      have taken : options.defaultFor? parameter.name = some text := found
      constructor
      · cases expression <;> simp [describe, given, Progress.defaultOf, taken]
      · show entry.default? options = some text ↔ text ≠ "" ∨ ¬ Writes options parameter.name
        rw [given, Progress.defaultOf_eq_some_iff taken, written, not_not]

/-- A parameter with a recorded text has a default, which is this text unless the text is empty and the override writes an
expression. -/
theorem analyze_prefersRecorded {signature : Signature} (run : analyze parameters options owner = .ok signature)
    {descriptor : ParameterDescriptor} (member : descriptor ∈ signature.parameters)
    (takesOne : descriptor.passing.isVariadic = false)
    (records : Records options (visible parameters) descriptor.name text) :
    descriptor.hasDefault = true ∧
      (descriptor.defaultText = some text ↔ text ≠ "" ∨ ¬ Writes options descriptor.name) := by
  obtain ⟨recorded, described, stubs, distinct, yields, -, rfl⟩ := analyze_eq_ok_iff.mp run
  have found := (defaultFor?_eq_some_iff distinct stubs).mpr records
  rw [← writes_withStubDefaults stubs]
  exact yields.prefersRecorded member takesOne found

/-- A recorded text wins over the expression of the override. -/
theorem analyze_prefersRecorded_overExpression :
    let parameters : List Parameter := [⟨"a", none, [], .start⟩]
    let entries : List SignatureEntry := [⟨.named "a" (some [.leaf ⟨.ident, "None", .start⟩]), .start⟩]
    let options := { Options.empty with signature := some entries, defaults := [("a", "zero()")] }
    ∃ signature, analyze parameters options none = .ok signature ∧
      ∃ descriptor ∈ signature.parameters, descriptor.hasDefault = true ∧ descriptor.defaultText = some "zero()" := by
  intro parameters entries options
  have passed : (analyze parameters options none).toOption.any (fun signature =>
      signature.parameters.any fun descriptor => !descriptor.passing.isVariadic && descriptor.name = "a") = true := by
    decide +kernel
  simp only [Option.any_eq_true, List.any_eq_true, Outcome.toOption_eq_some, Bool.and_eq_true, Bool.not_eq_true',
    decide_eq_true_eq] at passed
  obtain ⟨signature, run, descriptor, member, takesOne, named⟩ := passed
  have records : Records options (visible parameters) descriptor.name "zero()" := .options (named ▸ rfl)
  obtain ⟨defaulted, given⟩ := analyze_prefersRecorded run member takesOne records
  exact ⟨signature, run, descriptor, member, defaulted, given.mpr (.inl (by decide))⟩

/-- An empty text that is recorded gives way to the expression of the override. -/
theorem defaultText_of_emptyRecord :
    let parameters : List Parameter := [⟨"a", none, [], .start⟩]
    let entries : List SignatureEntry := [⟨.named "a" (some [.leaf ⟨.ident, "None", .start⟩]), .start⟩]
    let options := { Options.empty with signature := some entries, defaults := [("a", "")] }
    ∃ signature, analyze parameters options none = .ok signature ∧
      ∃ descriptor ∈ signature.parameters, descriptor.passing.isVariadic = false ∧
        Records options (visible parameters) descriptor.name "" ∧ descriptor.defaultText ≠ some "" := by
  intro parameters entries options
  have passed : (analyze parameters options none).toOption.any (fun signature =>
      signature.parameters.any fun descriptor => !descriptor.passing.isVariadic && descriptor.name = "a") = true := by
    decide +kernel
  simp only [Option.any_eq_true, List.any_eq_true, Outcome.toOption_eq_some, Bool.and_eq_true, Bool.not_eq_true',
    decide_eq_true_eq] at passed
  obtain ⟨signature, run, descriptor, member, takesOne, named⟩ := passed
  have records : Records options (visible parameters) descriptor.name "" := .options (named ▸ rfl)
  have written : Writes options descriptor.name := by
    rw [named]
    exact ⟨entries, rfl, _, List.mem_singleton_self _, _, rfl⟩
  obtain ⟨recorded, described, stubs, distinct, yields, -, rfl⟩ := analyze_eq_ok_iff.mp run
  have found := (defaultFor?_eq_some_iff distinct stubs).mpr records
  obtain ⟨-, given⟩ := yields.prefersRecorded member takesOne found
  rw [writes_withStubDefaults stubs] at given
  exact ⟨_, run, descriptor, member, takesOne, records, fun kept => (given.mp kept).elim (· rfl) (· written)⟩

end Signature

end Exposure
