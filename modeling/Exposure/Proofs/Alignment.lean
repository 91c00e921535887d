import Exposure.Proofs.Makings

/-!
# Descriptors stand in the order of what they describe

An override is read element by element, and each element looks its parameter up by name. The descriptors nevertheless come
in the order of declaration, one for each parameter that callers pass: their names do, and since the names differ from each
other, a descriptor can describe no other parameter than the one in its own place.
-/

namespace Exposure.Signature

variable {parameters : List Parameter} {options : Options} {owner : Option String}
  {described : List ParameterDescriptor}

/-- Parameters are described under the names that they are declared with, in order. -/
theorem Yields.names_eq (yields : Yields parameters options owner described)
    (distinct : (parameters.map (·.name)).Nodup) : described.map (·.name) = parameters.map (·.name) := by
  cases yields with
  | implicit absent => exact implicitParameters_names
  | explicit given run =>
    obtain ⟨last, read, -, complete, rfl⟩ := explicitParameters_eq_ok_iff.mp run
    have traces := Progress.Traces.run read
    exact traces.sound.namesSeen.trans (traces.ordered.reverse_eq distinct complete)

/-- Descriptors with the names of distinct parameters, each of which describes one of these, describe them in order. -/
theorem describes_inOrder (names : described.map (·.name) = parameters.map (·.name))
    (distinct : (parameters.map (·.name)).Nodup)
    (each : ∀ descriptor ∈ described, ∃ declared ∈ parameters, Describes owner declared descriptor) :
    List.Forall₂ (Describes owner) parameters described := by
  have sameLength : parameters.length = described.length := by simpa using (congrArg List.length names).symm
  apply List.forall₂_iff_get.mpr
  refine ⟨sameLength, fun index inside inside' => ?_⟩
  have sameName : described[index].name = parameters[index].name := by
    have atIndex := congrArg (·[index]?) names
    simpa [inside, inside'] using atIndex
  obtain ⟨declared, listed, named, typed⟩ := each described[index] (List.getElem_mem inside')
  obtain rfl : declared = parameters[index] :=
    List.inj_on_of_nodup_map distinct listed (List.getElem_mem inside) (named.symm.trans sameName)
  exact ⟨sameName, typed⟩

theorem Yields.describes_inOrder (yields : Yields parameters options owner described)
    (distinct : (parameters.map (·.name)).Nodup) : List.Forall₂ (Describes owner) parameters described :=
  Signature.describes_inOrder (yields.names_eq distinct) distinct yields.describes

/-- An analysed signature describes every parameter that callers pass, once and in order, under its own name, which no other
has, and with its own type. -/
theorem analyze_keepsOrder {signature : Signature} (run : analyze parameters options owner = .ok signature) :
    List.Forall₂ (Describes owner) (visible parameters) signature.parameters ∧
      (signature.parameters.map (·.name)).Nodup := by
  obtain ⟨recorded, described, -, distinct, yields, -, rfl⟩ := analyze_eq_ok_iff.mp run
  exact ⟨yields.describes_inOrder distinct, yields.names_eq distinct ▸ distinct⟩

/-- An override of a method is read with the receiver left out and both variadic parameters in their places. -/
theorem analyze_keepsOrder_variadic :
    let parameters : List Parameter := ["self", "other", "rest", "named"].map fun name =>
      ⟨name, some (.named "Self"), [], .start⟩
    let forms : List EntryForm := [.named "other" none, .variadicPositional "rest", .variadicKeyword "named"]
    let options := { Options.empty with signature := some (forms.map fun form => ⟨form, .start⟩) }
    ∃ signature, analyze parameters options (some "Point") = .ok signature ∧ signature.parameters.length = 3 ∧
      List.Forall₂ (Describes (some "Point")) (visible parameters) signature.parameters ∧
      (signature.parameters.map (·.name)).Nodup := by
  intro parameters forms options
  have counted : (analyze parameters options (some "Point")).toOption.map (·.parameters.length) = some 3 := by
    decide +kernel
  obtain ⟨signature, accepted, length⟩ := Option.map_eq_some_iff.mp counted
  have run := Outcome.toOption_eq_some.mp accepted
  exact ⟨signature, run, length, analyze_keepsOrder run⟩

end Exposure.Signature
