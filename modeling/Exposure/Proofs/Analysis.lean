import Exposure.Proofs.Elements

/-!
# What an analysis consists of

`Signature.analyze_eq_ok_iff` takes a successful analysis apart: the options with the texts of the stub attributes, distinct
names, what the parameters are described as, and the order of the defaults.
-/

namespace Exposure.Signature

variable {parameters : List Parameter} {entries : List SignatureEntry} {options : Options} {owner : Option String}
  {seen : List String} {done : Unit}

/-- Names pass the check if they differ from each other and from those seen before. -/
theorem checkDistinct_eq_ok_iff :
    checkDistinct seen parameters = .ok done ↔
      (parameters.map (·.name)).Nodup ∧ ∀ parameter ∈ parameters, parameter.name ∉ seen := by
  induction parameters generalizing seen with
  | nil => simp [checkDistinct]
  | cons first rest step =>
    rw [checkDistinct, List.map_cons, List.nodup_cons, List.forall_mem_cons]
    by_cases known : first.name ∈ seen
    · simp [known, report]
    · rw [if_neg (by simpa using known), step]
      simp only [List.mem_cons, not_or, List.mem_map]
      constructor
      · rintro ⟨distinct, fresh⟩
        have apart : ¬ ∃ parameter ∈ rest, parameter.name = first.name := by
          rintro ⟨parameter, member, same⟩
          exact (fresh parameter member).1 same
        exact ⟨⟨apart, distinct⟩, known, fun parameter member => (fresh parameter member).2⟩
      · rintro ⟨⟨apart, distinct⟩, -, fresh⟩
        have differs : ∀ parameter ∈ rest, parameter.name ≠ first.name :=
          fun parameter member same => apart ⟨parameter, member, same⟩
        exact ⟨distinct, fun parameter member => ⟨differs parameter member, fresh parameter member⟩⟩

theorem checkComplete_eq_ok_iff :
    checkComplete seen parameters = .ok done ↔ ∀ parameter ∈ parameters, parameter.name ∈ seen := by
  induction parameters with
  | nil => simp [checkComplete]
  | cons first rest step =>
    rw [checkComplete, List.forall_mem_cons, ← step]
    by_cases named : first.name ∈ seen
    · rw [if_pos (by simpa using named)]
      exact (and_iff_right named).symm
    · rw [if_neg (by simpa using named)]
      simp [report, named]

/-- An override describes parameters when its elements can be read, end where they may, and leave none out. -/
theorem explicitParameters_eq_ok_iff {described : List ParameterDescriptor} :
    explicitParameters parameters entries options owner = .ok described ↔
      ∃ last, entries.foldlM (Progress.read parameters options owner) .start = .ok last ∧
        last.phase ≠ .behindBareStar ∧ (∀ parameter ∈ parameters, parameter.name ∈ last.seen) ∧
        last.described = described := by
  simp only [explicitParameters, Outcome.bind_eq_ok]
  apply exists_congr
  intro last
  apply and_congr_right
  intro read
  cases closed : last.afterKeywords with
  | true => simp [Progress.phase_of_closed closed, checkComplete_eq_ok_iff]
  | false => simp [Progress.checkBareStar_eq_ok_iff closed, checkComplete_eq_ok_iff]

/-- What parameters are described as, with an override or without one. -/
inductive Yields (parameters : List Parameter) (options : Options) (owner : Option String) :
    List ParameterDescriptor → Prop
  | implicit (absent : options.signature = none) :
      Yields parameters options owner (implicitParameters parameters options owner)
  | explicit {entries : List SignatureEntry} {described : List ParameterDescriptor}
      (given : options.signature = some entries)
      (run : explicitParameters parameters entries options owner = .ok described) :
      Yields parameters options owner described

/-- Parameters are analysed if their stub attributes can be read, their names differ, and the defaults stand last in what
they are described as. -/
theorem analyze_eq_ok_iff {signature : Signature} :
    analyze parameters options owner = .ok signature ↔
      ∃ recorded described, withStubDefaults options (visible parameters) = .ok recorded ∧
        ((visible parameters).map (·.name)).Nodup ∧ Yields (visible parameters) recorded owner described ∧
        checkDefaultOrder (visible parameters) false false described = .ok () ∧
        signature = ⟨described, .ofParameters described⟩ := by
  simp only [analyze, Outcome.bind_eq_ok, checkDistinct_eq_ok_iff]
  constructor
  · rintro ⟨recorded, stubs, -, ⟨distinct, -⟩, run⟩
    split at run <;> simp only [Outcome.bind_eq_ok, Outcome.pure_eq_ok] at run
    · rename_i absent
      obtain ⟨described, rfl, ⟨⟩, order, rfl⟩ := run
      exact ⟨recorded, _, stubs, distinct, .implicit absent, order, rfl⟩
    · rename_i entries given
      obtain ⟨described, explicit, ⟨⟩, order, rfl⟩ := run
      exact ⟨recorded, described, stubs, distinct, .explicit given explicit, order, rfl⟩
  · rintro ⟨recorded, described, stubs, distinct, yields, order, rfl⟩
    refine ⟨recorded, stubs, (), ⟨distinct, fun _ _ => List.not_mem_nil⟩, ?_⟩
    cases yields with
    | implicit absent => simp [absent, order]
    | explicit given run => simp [given, run, order]

end Exposure.Signature
