import Exposure.Proofs.Analysis

/-!
# What calling conventions mean

`CallShape.Means` is what each calling convention says about the parameters: every list of parameters has one convention that
fits it. Analysed parameters have that convention, with one exception: a required parameter that stands alone and is passed
by name only is said to take a single argument, although no positional argument can be given to it.
-/

namespace Exposure

/-- There is one parameter, which is required and passed in a given way. -/
def IsLone (passing : PassingKind) (parameters : List ParameterDescriptor) : Prop :=
  ∃ only : ParameterDescriptor, parameters = [only] ∧ only.passing = passing ∧ only.hasDefault = false

namespace CallShape

/-- What a calling convention says about the parameters; the last one is for all that no other fits. -/
def Means : CallShape → List ParameterDescriptor → Prop
  | noArguments, parameters => parameters = []
  | variadic, parameters => ∃ parameter ∈ parameters, parameter.passing.isVariadic = true
  | positional, parameters => parameters ≠ [] ∧ ∀ parameter ∈ parameters, parameter.passing = .positionalOnly
  | single, parameters => IsLone .positionalOrKeyword parameters
  | keywords, parameters =>
    parameters ≠ [] ∧ (∀ parameter ∈ parameters, parameter.passing.isVariadic = false) ∧
      (∃ parameter ∈ parameters, parameter.passing ≠ .positionalOnly) ∧ ¬ IsLone .positionalOrKeyword parameters

variable {parameters : List ParameterDescriptor}

/-- No two conventions fit the same parameters. -/
theorem Means.unique {one other : CallShape} (ofOne : one.Means parameters) (ofOther : other.Means parameters) :
    one = other := by
  cases one <;> cases other <;> simp only [Means, IsLone] at ofOne ofOther <;> grind [PassingKind.isVariadic]

theorem means_ofParameters (notLone : ¬ IsLone .keywordOnly parameters) : (ofParameters parameters).Means parameters := by
  unfold ofParameters
  split
  · rename_i empty
    exact List.isEmpty_iff.mp empty
  rename_i nonempty
  have proper : parameters ≠ [] := by simpa using nonempty
  split
  · rename_i variadic
    exact List.any_eq_true.mp variadic
  rename_i none
  have notVariadic : ∀ parameter ∈ parameters, parameter.passing.isVariadic = false := by simpa using none
  split
  · rename_i positional
    exact ⟨proper, by simpa using positional⟩
  rename_i mixed
  have notPositional : ∃ parameter ∈ parameters, parameter.passing ≠ .positionalOnly := by simpa using mixed
  split
  · rename_i only
    split
    · rename_i hasDefault
      refine ⟨proper, notVariadic, notPositional, ?_⟩
      rintro ⟨_, same, -, required⟩
      obtain rfl := List.singleton_inj.mp same
      exact absurd hasDefault (Bool.eq_false_iff.mp required)
    · rename_i required
      -- The passing of a lone parameter is not looked at, so the case of a name only is excluded by the hypothesis.
      have takesOne : only.passing.isVariadic = false := notVariadic only (List.mem_singleton_self only)
      have notOnly : only.passing ≠ .positionalOnly := by simpa using notPositional
      have notKeyword : only.passing ≠ .keywordOnly := fun passed =>
        notLone ⟨only, rfl, passed, Bool.eq_false_iff.mpr required⟩
      refine ⟨only, rfl, ?_, Bool.eq_false_iff.mpr required⟩
      cases passed : only.passing <;> simp_all [PassingKind.isVariadic]
  · rename_i several
    refine ⟨proper, notVariadic, notPositional, ?_⟩
    rintro ⟨only, rfl, -⟩
    exact several only rfl

theorem ofParameters_of_isLone (lone : IsLone .keywordOnly parameters) : ofParameters parameters = .single := by
  obtain ⟨only, rfl, passed, required⟩ := lone
  simp [ofParameters, passed, required, PassingKind.isVariadic]

/-- The conventions say what they mean of all parameters but a required one that stands alone and is passed by name only. -/
theorem ofParameters_eq_iff_means :
    (∀ shape, ofParameters parameters = shape ↔ shape.Means parameters) ↔ ¬ IsLone .keywordOnly parameters := by
  constructor
  · intro faithful lone
    obtain ⟨only, alone, passed, -⟩ := (faithful .single).mp (ofParameters_of_isLone lone)
    obtain ⟨other, alone', passed', -⟩ := lone
    obtain rfl := List.singleton_inj.mp (alone.symm.trans alone')
    cases passed.symm.trans passed'
  · intro notLone shape
    constructor
    · rintro rfl
      exact means_ofParameters notLone
    · exact (means_ofParameters notLone).unique

end CallShape

/-- Parameters can be called with so many positional arguments, and no others: each argument goes to the next parameter that
is passed by position, or to the one that takes any number of them, and the parameters that are left have defaults. -/
inductive TakesPositional : List ParameterDescriptor → Nat → Prop
  | done : TakesPositional [] 0
  | give {parameter : ParameterDescriptor} {rest : List ParameterDescriptor} {count : Nat}
      (isPositional : parameter.passing.isPositional = true) (others : TakesPositional rest count) :
      TakesPositional (parameter :: rest) (count + 1)
  | leave {parameter : ParameterDescriptor} {rest : List ParameterDescriptor}
      (isOptional : parameter.hasDefault = true ∨ parameter.passing = .variadicKeyword)
      (others : TakesPositional rest 0) : TakesPositional (parameter :: rest) 0
  | collect {parameter : ParameterDescriptor} {rest : List ParameterDescriptor} {count : Nat}
      (isVariadic : parameter.passing = .variadicPositional) (others : TakesPositional rest 0) :
      TakesPositional (parameter :: rest) count

/-- A required parameter that stands alone takes one positional argument if it is passed by position, and else none. -/
theorem IsLone.takesPositional_iff {passing : PassingKind} {parameters : List ParameterDescriptor}
    (lone : IsLone passing parameters) (takesOne : passing.isVariadic = false) (count : Nat) :
    TakesPositional parameters count ↔ count = 1 ∧ passing.isPositional = true := by
  obtain ⟨only, rfl, rfl, required⟩ := lone
  constructor
  · intro takes
    cases takes with
    | give isPositional others =>
      cases others with
      | done => exact ⟨rfl, isPositional⟩
    | leave isOptional others =>
      rcases isOptional with hasDefault | passed
      · exact absurd hasDefault (Bool.eq_false_iff.mp required)
      · simp [passed, PassingKind.isVariadic] at takesOne
    | collect isVariadic others => simp [isVariadic, PassingKind.isVariadic] at takesOne
  · rintro ⟨rfl, isPositional⟩
    exact .give isPositional .done

namespace Signature

variable {parameters : List Parameter} {options : Options} {owner : Option String} {signature : Signature}

theorem shape_of_analyze (run : analyze parameters options owner = .ok signature) :
    signature.shape = .ofParameters signature.parameters := by
  obtain ⟨_, _, -, -, -, -, rfl⟩ := analyze_eq_ok_iff.mp run
  rfl

/-- The shape of analysed parameters is the convention that fits them, unless a required parameter stands alone and is passed
by name only, which is said to be a single argument; apart from this, parameters of that shape can be called with one
positional argument and with no other number of them. -/
theorem analyze_shapeMeans (run : analyze parameters options owner = .ok signature) :
    ((∀ shape, signature.shape = shape ↔ shape.Means signature.parameters) ↔
        ¬ IsLone .keywordOnly signature.parameters) ∧
      (IsLone .keywordOnly signature.parameters → signature.shape = .single) ∧
      (signature.shape = .single → ∀ count, TakesPositional signature.parameters count ↔
        count = 1 ∧ ¬ IsLone .keywordOnly signature.parameters) := by
  rw [shape_of_analyze run]
  refine ⟨CallShape.ofParameters_eq_iff_means, CallShape.ofParameters_of_isLone, fun isSingle count => ?_⟩
  by_cases lone : IsLone .keywordOnly signature.parameters
  · rw [lone.takesPositional_iff rfl]
    simp [lone, PassingKind.isPositional]
  · have means : CallShape.single.Means signature.parameters := isSingle ▸ CallShape.means_ofParameters lone
    have alone : IsLone .positionalOrKeyword signature.parameters := means
    rw [alone.takesPositional_iff rfl]
    simp [lone, PassingKind.isPositional]

/-- A required parameter that is passed by position or by name is a single argument. -/
theorem analyze_shapeMeans_single :
    ∃ signature, analyze [⟨"a", none, [], .start⟩] .empty none = .ok signature ∧
      CallShape.single.Means signature.parameters ∧ TakesPositional signature.parameters 1 := by
  have passed : (analyze [⟨"a", none, [], .start⟩] .empty none).toOption.any (fun signature =>
      signature.shape = .single && signature.parameters.all fun descriptor => descriptor.passing ≠ .keywordOnly) =
      true := by
    decide +kernel
  simp only [Option.any_eq_true, Outcome.toOption_eq_some, Bool.and_eq_true, decide_eq_true_eq,
    List.all_eq_true] at passed
  obtain ⟨signature, run, isSingle, byPosition⟩ := passed
  have apart : ¬ IsLone .keywordOnly signature.parameters := by
    rintro ⟨only, alone, passed, -⟩
    exact byPosition only (alone ▸ List.mem_singleton_self only) passed
  obtain ⟨faithful, -, takes⟩ := analyze_shapeMeans run
  exact ⟨signature, run, (faithful.mpr apart .single).mp isSingle, (takes isSingle 1).mpr ⟨rfl, apart⟩⟩

/-- A required parameter that is passed by name only is said to be a single argument, but takes no positional one. -/
theorem shape_of_loneKeyword :
    let entries : List SignatureEntry := [⟨.keywordMarker, .start⟩, ⟨.named "a" none, .start⟩]
    let options := { Options.empty with signature := some entries }
    ∃ signature, analyze [⟨"a", none, [], .start⟩] options none = .ok signature ∧ signature.shape = .single ∧
      ¬ CallShape.single.Means signature.parameters ∧ ∀ count, ¬ TakesPositional signature.parameters count := by
  intro entries options
  have passed : (analyze [⟨"a", none, [], .start⟩] options none).toOption.any (fun signature =>
      signature.parameters = [⟨"a", "()", .keywordOnly, false, none⟩]) = true := by
    decide +kernel
  simp only [Option.any_eq_true, Outcome.toOption_eq_some, decide_eq_true_eq] at passed
  obtain ⟨signature, run, parameters⟩ := passed
  have lone : IsLone .keywordOnly signature.parameters := ⟨_, parameters, rfl, rfl⟩
  have isSingle := (shape_of_analyze run).trans (CallShape.ofParameters_of_isLone lone)
  refine ⟨signature, run, isSingle, fun means => ?_, fun count takes => ?_⟩
  · obtain ⟨only, alone, passed, -⟩ := means
    obtain rfl := List.singleton_inj.mp (parameters.symm.trans alone)
    cases passed
  · cases ((lone.takesPositional_iff rfl count).mp takes).2

end Signature

end Exposure
