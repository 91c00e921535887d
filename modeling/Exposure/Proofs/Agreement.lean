import Exposure.Proofs.Outcome
import Exposure.Proofs.Places

/-!
Outcomes of computations on like inputs: both are results, which are alike, or both are the same fault up to positions.
-/

namespace Exposure

instance : Placed Diagnostic := ⟨fun report => ⟨report.cause, unplaced report.place⟩⟩

instance : Placed Fault where
  unplaced
    | .diagnostic report => .diagnostic (unplaced report)
    | other => other

/-- Only a diagnostic agrees with a diagnostic up to positions, and it reports the same. -/
theorem exists_of_sameButPlaces_diagnostic {report : Diagnostic} {fault : Fault}
    (same : SameButPlaces (.diagnostic report) fault) :
    ∃ report', fault = .diagnostic report' ∧ report'.cause = report.cause := by
  cases fault with
  | diagnostic report' =>
    have causes := congrArg Diagnostic.cause (Fault.diagnostic.inj same)
    exact ⟨report', rfl, causes.symm⟩
  | codePoint value => cases same
  | numeral => cases same

namespace Outcome

variable {value result element state value' result' element' state' : Type}

/-- Two outcomes are the same fault up to positions, or the result of the second is the transformed result of the
first. -/
def Carries (transform : value → value') : Outcome value → Outcome value' → Prop
  | .ok one, .ok two => two = transform one
  | .error one, .error two => SameButPlaces one two
  | _, _ => False

section Carries

variable {transform : value → value'} {transform' : result → result'}

theorem Carries.bind {one : Outcome value} {two : Outcome value'} (carries : Carries transform one two)
    {next : value → Outcome result} {next' : value' → Outcome result'}
    (rest : ∀ found, Carries transform' (next found) (next' (transform found))) :
    Carries transform' (one >>= next) (two >>= next') := by
  cases one with
  | error fault =>
    cases two with
    | error fault => exact carries
    | ok found => exact carries.elim
  | ok found =>
    cases two with
    | error fault => exact carries.elim
    | ok other =>
      obtain rfl : other = transform found := carries
      exact rest found

theorem Carries.map {one : Outcome value} {two : Outcome value'} (carries : Carries transform one two)
    {next : value → result} {next' : value' → result'}
    (rest : ∀ found, next' (transform found) = transform' (next found)) :
    Carries transform' (next <$> one) (next' <$> two) := by
  cases one with
  | error fault =>
    cases two with
    | error fault => exact carries
    | ok found => exact carries.elim
  | ok found =>
    cases two with
    | error fault => exact carries.elim
    | ok other =>
      obtain rfl : other = transform found := carries
      exact rest found

theorem carries_id (outcome : Outcome value) : Carries id outcome outcome := by
  cases outcome <;> exact rfl

/-- Reports of one cause carry each other when their places agree. -/
theorem carries_report {place place' : Place} (same : SameButPlaces place place') (cause : Cause) :
    Carries transform (report place cause) (report place' cause) :=
  congrArg (fun place => Fault.diagnostic ⟨cause, place⟩) (show unplaced place = unplaced place' from same)

theorem Carries.ite {condition : Prop} [Decidable condition] {one other : Outcome value} {two another : Outcome value'}
    (ofThen : condition → Carries transform one two) (ofElse : ¬ condition → Carries transform other another) :
    Carries transform (if condition then one else other) (if condition then two else another) := by
  split
  · exact ofThen ‹_›
  · exact ofElse ‹_›

/-- Where one outcome is a result, so is the other. -/
theorem Carries.eq_ok {one : Outcome value} {two : Outcome value'} (carries : Carries transform one two) {found : value}
    (run : one = .ok found) : two = .ok (transform found) := by
  subst run
  cases two with
  | error fault => exact carries.elim
  | ok other => exact congrArg Except.ok carries

theorem Carries.exists_of_eq_ok {one : Outcome value} {two : Outcome value'} (carries : Carries transform one two)
    {found' : value'} (run : two = .ok found') : ∃ found, one = .ok found ∧ found' = transform found := by
  subst run
  cases one with
  | error fault => exact carries.elim
  | ok found => exact ⟨found, rfl, carries⟩

/-- Folds of steps that carry each other carry each other. -/
theorem carries_foldlM {step : state → element → Outcome state} {step' : state' → element' → Outcome state'}
    {ofState : state → state'} {ofElement : element → element'}
    (each : ∀ before next, Carries ofState (step before next) (step' (ofState before) (ofElement next)))
    (elements : List element) (start : state) :
    Carries ofState (elements.foldlM step start) ((elements.map ofElement).foldlM step' (ofState start)) := by
  induction elements generalizing start with
  | nil => exact rfl
  | cons next rest again =>
    rw [List.map_cons, List.foldlM_cons, List.foldlM_cons]
    exact (each start next).bind again

theorem carries_mapM {run : element → Outcome value} {run' : element' → Outcome value'} {ofElement : element → element'}
    (each : ∀ given, Carries transform (run given) (run' (ofElement given))) (elements : List element) :
    Carries (List.map transform) (elements.mapM run) ((elements.map ofElement).mapM run') := by
  induction elements with
  | nil => exact rfl
  | cons first rest again =>
    rw [List.map_cons, List.mapM_cons, List.mapM_cons]
    exact (each first).bind fun one => again.bind fun others => rfl

end Carries

/-- Two outcomes are like results, or the same fault up to positions. -/
inductive Agree (like : value → value' → Prop) : Outcome value → Outcome value' → Prop
  | ok {one : value} {two : value'} (same : like one two) : Agree like (.ok one) (.ok two)
  | error {one two : Fault} (same : SameButPlaces one two) : Agree like (.error one) (.error two)

section Agree

variable {like : value → value' → Prop} {like' : result → result' → Prop}

theorem Agree.bind {one : Outcome value} {two : Outcome value'} (agree : Agree like one two)
    {next : value → Outcome result} {next' : value' → Outcome result'}
    (rest : ∀ found found', like found found' → Agree like' (next found) (next' found')) :
    Agree like' (one >>= next) (two >>= next') := by
  cases agree with
  | ok same => exact rest _ _ same
  | error same => exact .error same

/-- Outcomes that carry a third agree with each other. -/
theorem Carries.agree {third : Type} {transform : value → third} {transform' : value' → third} {one : Outcome value}
    {two : Outcome value'} {common : Outcome third} (ofOne : Carries transform one common)
    (ofTwo : Carries transform' two common) : Agree (fun found found' => transform found = transform' found') one two := by
  cases common with
  | error fault =>
    cases one with
    | ok found => exact ofOne.elim
    | error fault' =>
      cases two with
      | ok found => exact ofTwo.elim
      | error other => exact .error (Eq.trans ofOne (Eq.symm ofTwo))
  | ok last =>
    cases one with
    | error fault => exact ofOne.elim
    | ok found =>
      cases two with
      | error fault => exact ofTwo.elim
      | ok other => exact .ok (Eq.trans (Eq.symm ofOne) ofTwo)

/-- Computations on the elements of like lists agree when those on their elements do. -/
theorem agree_mapM {like : value → value' → Prop} {likeElement : element → element' → Prop}
    {run : element → Outcome value} {run' : element' → Outcome value'}
    (each : ∀ given given', likeElement given given' → Agree like (run given) (run' given'))
    {elements : List element} {elements' : List element'} (same : List.Forall₂ likeElement elements elements') :
    Agree (List.Forall₂ like) (elements.mapM run) (elements'.mapM run') := by
  induction same with
  | nil => exact .ok .nil
  | cons first _ again =>
    rw [List.mapM_cons, List.mapM_cons]
    exact (each _ _ first).bind fun _ _ one => again.bind fun _ _ others => .ok (.cons one others)

end Agree

end Outcome

end Exposure
