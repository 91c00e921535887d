import Exposure.Diagnostic
import Mathlib.Data.List.Forall2
import Mathlib.Data.List.Induction

namespace Exposure.Outcome

variable {value result element state failure : Type}

@[simp] theorem pure_eq_ok {one other : value} : (pure one : Except failure value) = .ok other ↔ one = other := by
  simp [pure, Except.pure]

/-- A composed outcome has a result when its first part has one and the second part has one from there. -/
@[simp] theorem bind_eq_ok {first : Except failure value} {next : value → Except failure result} {last : result} :
    first >>= next = .ok last ↔ ∃ middle, first = .ok middle ∧ next middle = .ok last := by
  cases first with
  | error fault => simp [bind, Except.bind]
  | ok middle => simp [bind, Except.bind]

@[simp] theorem map_eq_ok {first : Except failure value} {transform : value → result} {last : result} :
    transform <$> first = .ok last ↔ ∃ middle, first = .ok middle ∧ transform middle = last := by
  cases first with
  | error fault => simp [Functor.map, Except.map]
  | ok middle => simp [Functor.map, Except.map]

@[simp] theorem toOption_eq_some {first : Except failure value} {last : value} :
    first.toOption = some last ↔ first = .ok last := by
  cases first <;> simp [Except.toOption]

/-- A report is no result. -/
@[simp] theorem report_ne_ok {place : Place} {cause : Cause} {last : value} :
    (report place cause : Outcome value) ≠ .ok last := by
  simp [report]

/-- What a fold makes of its elements holds at its end, if every step makes it of one element more. -/
theorem foldlM_history {step : state → element → Outcome state} (invariant : List element → state → Prop)
    {elements : List element}
    (preserved : ∀ past before, ∀ next ∈ elements, ∀ after, invariant past before → step before next = .ok after →
      invariant (past ++ [next]) after)
    {start last : state} (atStart : invariant [] start) (run : elements.foldlM step start = .ok last) :
    invariant elements last := by
  suffices behind : ∀ earlier, invariant earlier start → invariant (earlier ++ elements) last from behind [] atStart
  clear atStart
  induction elements generalizing start with
  | nil =>
    simp only [List.foldlM_nil, pure_eq_ok] at run
    intro earlier holds
    rwa [List.append_nil, ← run]
  | cons next rest ih =>
    simp only [List.foldlM_cons, bind_eq_ok] at run
    obtain ⟨middle, first, others⟩ := run
    intro earlier holds
    rw [List.append_cons]
    exact ih (fun past before other member => preserved past before other (List.mem_cons_of_mem _ member)) others _
      (preserved earlier start next List.mem_cons_self middle holds first)

/-- What every step of a fold preserves holds at its end. -/
theorem foldlM_invariant {step : state → element → Outcome state} (invariant : state → Prop) {elements : List element}
    (preserved : ∀ before, ∀ next ∈ elements, ∀ after, invariant before → step before next = .ok after →
      invariant after)
    {start last : state} (atStart : invariant start) (run : elements.foldlM step start = .ok last) :
    invariant last :=
  foldlM_history (fun _ => invariant) (fun _ => preserved) atStart run

/-- A fold has a result if every step that it comes to has one. -/
theorem exists_foldlM_eq_ok {step : state → element → Outcome state} {elements : List element} {start : state}
    (steps : ∀ past next rest before, elements = past ++ next :: rest → past.foldlM step start = .ok before →
      ∃ after, step before next = .ok after) : ∃ last, elements.foldlM step start = .ok last := by
  induction elements using List.reverseRecOn with
  | nil => exact ⟨start, rfl⟩
  | append_singleton past next again =>
    obtain ⟨before, read⟩ := again fun earlier other rest before split read =>
      steps earlier other (rest ++ [next]) before (by simp [split]) read
    obtain ⟨after, one⟩ := steps past next [] before rfl read
    exact ⟨after, by simp [List.foldlM_append, read, one]⟩

/-- Results for a list are the results for its elements, in the same order. -/
theorem mapM_eq_ok_iff {transform : element → Except failure value} {elements : List element} {results : List value} :
    elements.mapM transform = .ok results ↔
      List.Forall₂ (fun given found => transform given = .ok found) elements results := by
  induction elements generalizing results with
  | nil =>
    simp only [List.mapM_nil, pure_eq_ok, List.forall₂_nil_left_iff]
    exact eq_comm
  | cons first rest ih =>
    simp only [List.mapM_cons, bind_eq_ok, pure_eq_ok, List.forall₂_cons_left_iff, ih]
    constructor
    · rintro ⟨found, firstFound, others, othersFound, rfl⟩
      exact ⟨found, others, firstFound, othersFound, rfl⟩
    · rintro ⟨found, others, firstFound, othersFound, rfl⟩
      exact ⟨found, firstFound, others, othersFound, rfl⟩

/-- There are results for a list exactly when there is one for each of its elements. -/
theorem exists_mapM_eq_ok_iff {transform : element → Except failure value} {elements : List element} :
    (∃ results, elements.mapM transform = .ok results) ↔ ∀ given ∈ elements, ∃ found, transform given = .ok found := by
  simp only [mapM_eq_ok_iff]
  constructor
  · rintro ⟨results, each⟩ given member
    induction each with
    | nil => cases member
    | cons first _ again =>
      rcases List.mem_cons.mp member with rfl | later
      · exact ⟨_, first⟩
      · exact again later
  · intro each
    induction elements with
    | nil => exact ⟨[], .nil⟩
    | cons first rest again =>
      obtain ⟨ofFirst, ofRest⟩ := List.forall_mem_cons.mp each
      obtain ⟨found, here⟩ := ofFirst
      obtain ⟨results, others⟩ := again ofRest
      exact ⟨found :: results, .cons here others⟩

/-- Every member of the second of two matched lists is matched by a member of the first. -/
theorem exists_of_forall₂ {related : element → value → Prop} {elements : List element} {results : List value}
    (each : List.Forall₂ related elements results) {found : value} (member : found ∈ results) :
    ∃ given ∈ elements, related given found := by
  induction each with
  | nil => cases member
  | cons here _ ih =>
    rcases List.mem_cons.mp member with rfl | later
    · exact ⟨_, List.mem_cons_self, here⟩
    · obtain ⟨given, inside, found⟩ := ih later
      exact ⟨given, List.mem_cons_of_mem _ inside, found⟩

/-- Every result for a list is the result for one of its elements. -/
theorem exists_of_mem_mapM {transform : element → Outcome value} {elements : List element} {results : List value}
    (run : elements.mapM transform = .ok results) {found : value} (member : found ∈ results) :
    ∃ given ∈ elements, transform given = .ok found :=
  exists_of_forall₂ (mapM_eq_ok_iff.mp run) member

/-! Outcomes of which the faults are known too -/

/-- A result has one property, and a fault another. -/
def Meets (blames : Fault → Prop) (gives : value → Prop) : Outcome value → Prop
  | .ok found => gives found
  | .error fault => blames fault

section Meets

variable {blames : Fault → Prop} {gives : value → Prop} {gives' : result → Prop}

theorem meets_pure {found : value} (given : gives found) : Meets blames gives (pure found) := given

theorem Meets.bind {first : Outcome value} (meets : first.Meets blames gives) {next : value → Outcome result}
    (rest : ∀ found, gives found → (next found).Meets blames gives') : (first >>= next).Meets blames gives' := by
  cases first with
  | error fault => exact meets
  | ok found => exact rest found meets

theorem Meets.map {outcome : Outcome value} (meets : outcome.Meets blames gives) {transform : value → result}
    (carried : ∀ found, gives found → gives' (transform found)) : (transform <$> outcome).Meets blames gives' := by
  cases outcome with
  | error fault => exact meets
  | ok found => exact carried found meets

/-- What every step of a fold keeps holds of its result. -/
theorem meets_foldlM {step : state → element → Outcome state} {invariant : state → Prop} {elements : List element}
    (kept : ∀ before, ∀ next ∈ elements, invariant before → (step before next).Meets blames invariant)
    {start : state} (atStart : invariant start) : (elements.foldlM step start).Meets blames invariant := by
  induction elements generalizing start with
  | nil => exact atStart
  | cons next rest again =>
    rw [List.foldlM_cons]
    exact (kept start next List.mem_cons_self atStart).bind fun middle holds =>
      again (fun before later member => kept before later (List.mem_cons_of_mem _ member)) holds

/-- What holds of every result of the elements holds of all results together. -/
theorem meets_mapM {transform : element → Outcome value} {elements : List element}
    (each : ∀ given ∈ elements, (transform given).Meets blames gives) :
    (elements.mapM transform).Meets blames fun found => ∀ one ∈ found, gives one := by
  induction elements with
  | nil => exact nofun
  | cons first rest again =>
    obtain ⟨ofFirst, ofRest⟩ := List.forall_mem_cons.mp each
    rw [List.mapM_cons]
    exact ofFirst.bind fun one given => (again ofRest).bind fun others ofOthers =>
      meets_pure (List.forall_mem_cons.mpr ⟨given, ofOthers⟩)

end Meets

end Exposure.Outcome
