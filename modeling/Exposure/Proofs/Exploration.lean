import Exposure.Syntax.Chain
import Mathlib.Data.List.Induction
import Mathlib.Data.List.Nodup
import Mathlib.Data.List.Perm.Subperm

/-!
The exploration of findings: at every stretch it finds all that follows from the innermost link that ends there, and nothing
else.
-/

namespace Exposure.Chain

/-! Exploration -/

section Explore

variable {follow : Finding → List Finding}

/-- What is explored stood on the agenda or follows from what is explored. -/
theorem mem_explore {fuel : Nat} {known agenda : List Finding} {finding : Finding}
    (member : finding ∈ explore follow fuel known agenda) :
    finding ∈ agenda ∨ ∃ earlier ∈ explore follow fuel known agenda, finding ∈ follow earlier := by
  induction fuel generalizing known agenda with
  | zero => cases member
  | succ fuel step =>
    cases agenda with
    | nil => cases member
    | cons first rest =>
      rw [explore] at member ⊢
      rcases List.mem_cons.mp member with rfl | member
      · exact .inl List.mem_cons_self
      · rcases step member with fresh | ⟨earlier, explored, follows⟩
        · rcases List.mem_append.mp fresh with fresh | later
          · have follows := (List.mem_filter.mp (List.mem_reverse.mp fresh)).1
            exact .inr ⟨first, List.mem_cons_self, follows⟩
          · exact .inl (List.mem_cons_of_mem first later)
        · exact .inr ⟨earlier, List.mem_cons_of_mem first explored, follows⟩

/-- A property of the agenda that is handed on holds of what is explored. -/
theorem explore_invariant {property : Finding → Prop}
    (handed : ∀ finding, property finding → ∀ next ∈ follow finding, property next)
    {fuel : Nat} {known agenda : List Finding} (start : ∀ finding ∈ agenda, property finding) :
    ∀ finding ∈ explore follow fuel known agenda, property finding := by
  induction fuel generalizing known agenda with
  | zero => nofun
  | succ fuel step =>
    cases agenda with
    | nil => nofun
    | cons first rest =>
      obtain ⟨ofFirst, ofRest⟩ := List.forall_mem_cons.mp start
      refine List.forall_mem_cons.mpr ⟨ofFirst, step (List.forall_mem_append.mpr ⟨fun finding fresh => ?_, ofRest⟩)⟩
      exact handed first ofFirst finding (List.mem_filter.mp (List.mem_reverse.mp fresh)).1

/-- Nothing is explored twice. -/
theorem nodup_explore (distinct : ∀ finding, (follow finding).Nodup) {fuel : Nat} {known agenda : List Finding}
    (ofAgenda : agenda.Nodup) (isKnown : agenda ⊆ known) :
    (explore follow fuel known agenda).Nodup ∧
      ∀ finding ∈ explore follow fuel known agenda, finding ∈ agenda ∨ finding ∉ known := by
  induction fuel generalizing known agenda with
  | zero => exact ⟨List.nodup_nil, nofun⟩
  | succ fuel step =>
    cases agenda with
    | nil => exact ⟨List.nodup_nil, nofun⟩
    | cons first rest =>
      obtain ⟨noFirst, ofRest⟩ := List.nodup_cons.mp ofAgenda
      obtain ⟨knownFirst, knownRest⟩ := List.cons_subset.mp isKnown
      rw [explore]
      generalize freshly : (follow first).filter (!known.contains ·) = fresh
      have new : ∀ finding ∈ fresh, finding ∉ known := by
        intro finding member
        rw [← freshly, List.mem_filter] at member
        simpa using member.2
      have ofFresh : fresh.Nodup := freshly ▸ (distinct first).filter _
      have apart : (fresh.reverse ++ rest).Nodup := by
        refine List.nodup_append.mpr ⟨List.nodup_reverse.mpr ofFresh, ofRest, ?_⟩
        rintro finding member _ other rfl
        exact new finding (List.mem_reverse.mp member) (knownRest other)
      have within : fresh.reverse ++ rest ⊆ fresh ++ known :=
        List.append_subset.mpr ⟨fun finding member => List.mem_append_left _ (List.mem_reverse.mp member),
          fun finding member => List.mem_append_right _ (knownRest member)⟩
      obtain ⟨ofOthers, origin⟩ := step apart within
      refine ⟨List.nodup_cons.mpr ⟨fun again => ?_, ofOthers⟩,
        List.forall_mem_cons.mpr ⟨.inl List.mem_cons_self, ?_⟩⟩
      · rcases origin first again with listed | unknown
        · rcases List.mem_append.mp listed with fresh | later
          · exact new first (List.mem_reverse.mp fresh) knownFirst
          · exact noFirst later
        · exact unknown (List.mem_append_right _ knownFirst)
      · intro finding explored
        rcases origin finding explored with listed | unknown
        · rcases List.mem_append.mp listed with fresh | later
          · exact .inr (new finding (List.mem_reverse.mp fresh))
          · exact .inl (List.mem_cons_of_mem first later)
        · exact .inr fun knew => unknown (List.mem_append_right _ knew)

/-- With enough fuel for all that can be found, the agenda is explored and everything that follows from it. -/
theorem explore_closed {property : Finding → Prop} {all : List Finding}
    (complete : ∀ finding, property finding → finding ∈ all)
    (handed : ∀ finding, property finding → ∀ next ∈ follow finding, property next)
    (distinct : ∀ finding, (follow finding).Nodup) {fuel : Nat} {known agenda : List Finding}
    (ofKnown : ∀ finding ∈ known, property finding) (nodup : known.Nodup) (isKnown : agenda ⊆ known)
    (enough : all.length + agenda.length ≤ fuel + known.length) :
    agenda ⊆ explore follow fuel known agenda ∧
      ∀ finding ∈ explore follow fuel known agenda, ∀ next ∈ follow finding,
        next ∈ known ∨ next ∈ explore follow fuel known agenda := by
  induction fuel generalizing known agenda with
  | zero =>
    have fits : known.length ≤ all.length :=
      (nodup.subperm fun finding member => complete finding (ofKnown finding member)).length_le
    obtain rfl : agenda = [] := List.eq_nil_of_length_eq_zero (by omega)
    exact ⟨List.nil_subset _, nofun⟩
  | succ fuel step =>
    cases agenda with
    | nil => exact ⟨List.nil_subset _, nofun⟩
    | cons first rest =>
      obtain ⟨knownFirst, knownRest⟩ := List.cons_subset.mp isKnown
      rw [explore]
      generalize freshly : (follow first).filter (!known.contains ·) = fresh
      have mem_fresh {finding : Finding} : finding ∈ fresh ↔ finding ∈ follow first ∧ finding ∉ known := by
        rw [← freshly, List.mem_filter]
        simp
      have ofFresh : ∀ finding ∈ fresh, property finding := fun finding member =>
        handed first (ofKnown first knownFirst) finding (mem_fresh.mp member).1
      have apart : (fresh ++ known).Nodup := by
        refine List.nodup_append.mpr ⟨freshly ▸ (distinct first).filter _, nodup, ?_⟩
        rintro finding member _ knew rfl
        exact (mem_fresh.mp member).2 knew
      have within : fresh.reverse ++ rest ⊆ fresh ++ known :=
        List.append_subset.mpr ⟨fun finding member => List.mem_append_left _ (List.mem_reverse.mp member),
          fun finding member => List.mem_append_right _ (knownRest member)⟩
      obtain ⟨listed, closed⟩ := step (List.forall_mem_append.mpr ⟨ofFresh, ofKnown⟩) apart within (by
        simp only [List.length_append, List.length_reverse, List.length_cons] at enough ⊢
        omega)
      generalize explore follow fuel (fresh ++ known) (fresh.reverse ++ rest) = explored at listed closed
      have explores {finding : Finding} (member : finding ∈ fresh ++ known) :
          finding ∈ known ∨ finding ∈ first :: explored := by
        rcases List.mem_append.mp member with new | knew
        · exact .inr (List.mem_cons_of_mem first (listed (List.mem_append_left _ (List.mem_reverse.mpr new))))
        · exact .inl knew
      refine ⟨List.cons_subset.mpr ⟨List.mem_cons_self, fun finding later => ?_⟩,
        List.forall_mem_cons.mpr ⟨fun next follows => ?_, fun finding member next follows => ?_⟩⟩
      · exact List.mem_cons_of_mem first (listed (List.mem_append_right _ later))
      · by_cases knew : next ∈ known
        · exact .inl knew
        · exact explores (List.mem_append_left _ (mem_fresh.mpr ⟨follows, knew⟩))
      · rcases closed finding member next follows with member | later
        · exact explores member
        · exact .inr (List.mem_cons_of_mem first later)

end Explore


/-! What is found at each stretch -/

theorem nodup_eraseDups {element : Type} [BEq element] [LawfulBEq element] (elements : List element) :
    elements.eraseDups.Nodup := by
  induction size : elements.length using Nat.strongRecOn generalizing elements with
  | _ length step =>
    cases elements with
    | nil => exact List.nodup_nil
    | cons first rest =>
      rw [List.eraseDups_cons, List.nodup_cons]
      refine ⟨fun again => ?_, step _ ?_ _ rfl⟩
      · simp at again
      · rw [List.length_cons] at size
        exact Nat.lt_of_le_of_lt (List.length_filter_le ..) (by omega)

section Findings

variable {stretches : List Stretch} {history : List (List Finding)}

theorem mem_headed {findings : List Finding} {place : Place} :
    place ∈ headed findings ↔ .link place ∈ findings ∧ place.level ≠ 0 := by
  rw [headed, List.mem_filterMap]
  constructor
  · rintro ⟨finding, member, same⟩
    cases finding with
    | link other =>
      simp only [Option.ite_none_left_eq_some, Option.some.injEq] at same
      obtain ⟨proper, rfl⟩ := same
      exact ⟨member, proper⟩
    | _ => cases same
  · rintro ⟨member, proper⟩
    exact ⟨.link place, member, by simp [proper]⟩

theorem mem_continued {stretch : Nat} {tail : Tail} :
    tail ∈ continued stretches history stretch ↔
      (∃ here, stretches[stretch]? = some here ∧ here.joint = some tail.kind) ∧
        (.tail tail ∈ history.getD (stretch - 1) [] ∨
          ∃ place, .goesOn place ∈ history.getD (stretch - 1) [] ∧ kindAt? stretches place = some tail.kind ∧
            tail.joint = stretch - 1) := by
  rw [continued, List.mem_filter, pending, List.mem_eraseDups, List.mem_filterMap, decide_eq_true_eq,
    Option.bind_eq_some_iff, and_comm]
  refine and_congr_right fun _ => ⟨?_, ?_⟩
  · rintro ⟨finding, member, same⟩
    cases finding with
    | link place => cases same
    | tail other =>
      cases same
      exact .inl member
    | goesOn place =>
      obtain ⟨kind, isKind, rfl⟩ := Option.map_eq_some_iff.mp same
      exact .inr ⟨place, member, isKind, rfl⟩
  · rintro (member | ⟨place, member, isKind, behind⟩)
    · exact ⟨.tail tail, member, rfl⟩
    · exact ⟨.goesOn place, member, Option.map_eq_some_iff.mpr ⟨tail.kind, isKind, by rw [← behind]⟩⟩

/-- The number of chains that a stretch opens. -/
def width (stretches : List Stretch) (stretch : Nat) : Nat := (stretches[stretch]?).elim 0 (·.opened.length)

theorem exists_kindAt {place : Place} {kind : ChainKind} (isKind : kindAt? stretches place = some kind) :
    0 < place.level ∧ place.level ≤ width stretches place.stretch := by
  obtain ⟨stretch, _ | level⟩ := place
  · cases isKind
  · obtain ⟨here, there, opens⟩ := Option.bind_eq_some_iff.mp isKind
    obtain ⟨fits, -⟩ := List.getElem?_eq_some_iff.mp opens
    simp only [width, there, Option.elim_some]
    omega

theorem kindAt_isSome {place : Place} (proper : 0 < place.level) (fits : place.level ≤ width stretches place.stretch) :
    ∃ kind, kindAt? stretches place = some kind := by
  obtain ⟨stretch, _ | level⟩ := place
  · cases proper
  · simp only [width] at fits
    cases there : stretches[stretch]? with
    | none => simp [there] at fits
    | some here =>
      rw [there] at fits
      exact ⟨_, by simpa [kindAt?, there] using List.getElem?_eq_getElem fits⟩

/-- What can be found at a stretch. -/
def InRange (stretches : List Stretch) (last : Nat) : Finding → Prop
  | .link place => place.stretch ≤ last ∧ place.level ≤ width stretches place.stretch
  | .goesOn place => place.stretch ≤ last ∧ 0 < place.level ∧ place.level ≤ width stretches place.stretch
  | .tail tail => tail.joint < last

/-- Everything that can be found at some stretches. -/
def everything (stretches : List Stretch) : List Finding :=
  (List.range stretches.length).flatMap fun stretch =>
    (List.range (width stretches stretch + 1)).map (fun level => .link ⟨stretch, level⟩) ++
      (List.range (width stretches stretch)).map (fun level => .goesOn ⟨stretch, level + 1⟩) ++
        [.tail ⟨.path, stretch⟩, .tail ⟨.bounds, stretch⟩]

theorem InRange.mem_everything {last : Nat} (fits : last < stretches.length) {finding : Finding}
    (inRange : InRange stretches last finding) : finding ∈ everything stretches := by
  cases finding with
  | link place =>
    obtain ⟨before, level⟩ := inRange
    refine List.mem_flatMap.mpr ⟨place.stretch, List.mem_range.mpr (by omega), ?_⟩
    have listed : Finding.link place ∈ (List.range (width stretches place.stretch + 1)).map
        (fun level => Finding.link ⟨place.stretch, level⟩) :=
      List.mem_map.mpr ⟨place.level, List.mem_range.mpr (by omega), rfl⟩
    simp [listed]
  | goesOn place =>
    obtain ⟨before, proper, level⟩ := inRange
    refine List.mem_flatMap.mpr ⟨place.stretch, List.mem_range.mpr (by omega), ?_⟩
    have listed : Finding.goesOn place ∈ (List.range (width stretches place.stretch)).map
        (fun level => Finding.goesOn ⟨place.stretch, level + 1⟩) :=
      List.mem_map.mpr ⟨place.level - 1, List.mem_range.mpr (by omega), by simp only [Nat.sub_add_cancel proper]⟩
    simp [listed]
  | tail tail =>
    obtain ⟨kind, joint⟩ := tail
    have before : joint < last := inRange
    refine List.mem_flatMap.mpr ⟨joint, List.mem_range.mpr (by omega), ?_⟩
    cases kind <;> simp

/-- The allowance for the first of some stretches. -/
def allowanceBefore (stretches : List Stretch) (stretch : Nat) : Nat := allowance (stretches.take stretch)

theorem allowanceBefore_succ {stretch : Nat} (fits : stretch < stretches.length) :
    allowanceBefore stretches (stretch + 1) = allowanceBefore stretches stretch + 2 * width stretches stretch + 4 := by
  rw [allowanceBefore, allowanceBefore, allowance, List.take_add_one, List.foldl_append, List.getElem?_eq_getElem fits]
  simp [allowance, width, List.getElem?_eq_getElem fits]

theorem allowanceBefore_length : allowanceBefore stretches stretches.length = allowance stretches := by
  rw [allowanceBefore, List.take_length]

variable (stretches) in
theorem allowanceBefore_mono {one two : Nat} (ordered : one ≤ two) (fits : two ≤ stretches.length) :
    allowanceBefore stretches one ≤ allowanceBefore stretches two := by
  induction two with
  | zero =>
    obtain rfl := Nat.le_zero.mp ordered
    exact Nat.le_refl _
  | succ two step =>
    rcases Nat.le_succ_iff.mp ordered with before | rfl
    · have := step before (by omega)
      rw [allowanceBefore_succ (by omega)]
      omega
    · exact Nat.le_refl _

theorem length_everything : (everything stretches).length ≤ allowance stretches := by
  rw [← allowanceBefore_length, everything]
  generalize bound : stretches.length = count
  have fits : count ≤ stretches.length := Nat.le_of_eq bound.symm
  clear bound
  induction count with
  | zero => exact Nat.zero_le _
  | succ count step =>
    have before := step (by omega)
    rw [List.range_succ, List.flatMap_append, List.length_append, allowanceBefore_succ (by omega)]
    simp only [List.flatMap_singleton, List.length_append, List.length_map, List.length_range, List.length_cons,
      List.length_nil]
    omega

theorem nodup_consequences (distinct : ∀ stretch, (history.getD stretch []).Nodup) (finding : Finding) :
    (consequences stretches history finding).Nodup := by
  cases finding with
  | link place =>
    rw [consequences]
    split
    · refine List.Nodup.map (fun one two same => Finding.tail.inj same) ?_
      exact (nodup_eraseDups _).filter _
    · simp
  | tail tail =>
    have heads : (headed (history.getD tail.joint [])).Nodup := by
      refine List.Nodup.filterMap ?_ (distinct tail.joint)
      intro one two place ofOne ofTwo
      cases one with
      | link other =>
        cases two with
        | link another =>
          simp only [Option.mem_def, Option.ite_none_left_eq_some, Option.some.injEq] at ofOne ofTwo
          rw [ofOne.2, ofTwo.2]
        | _ => cases ofTwo
      | _ => cases ofOne
    refine (heads.filter _).map_on fun one ofOne two ofTwo same => ?_
    have properOne := (mem_headed.mp (List.mem_filter.mp ofOne).1).2
    have properTwo := (mem_headed.mp (List.mem_filter.mp ofTwo).1).2
    obtain ⟨oneStretch, oneLevel⟩ := one
    obtain ⟨twoStretch, twoLevel⟩ := two
    simp only [Place.outer, Finding.link.injEq, Place.mk.injEq] at same properOne properTwo ⊢
    omega
  | goesOn place => exact List.nodup_nil

end Findings

/-! The history of findings -/

/-- A list to which an entry is added that depends on the entries before it. -/
theorem foldl_append_entry {entry element : Type} (next : List entry → element → entry) (elements : List element) :
    (elements.foldl (fun history one => history ++ [next history one]) []).length = elements.length ∧
      ∀ index one, elements[index]? = some one →
        (elements.foldl (fun history one => history ++ [next history one]) [])[index]? =
          some (next ((elements.foldl (fun history one => history ++ [next history one]) []).take index) one) := by
  induction elements using List.reverseRecOn with
  | nil => exact ⟨rfl, nofun⟩
  | append_singleton others last step =>
    rw [List.foldl_append, List.foldl_cons, List.foldl_nil]
    generalize others.foldl (fun history one => history ++ [next history one]) [] = history at step
    obtain ⟨size, entries⟩ := step
    refine ⟨by simp [size], fun index one here => ?_⟩
    rcases Nat.lt_trichotomy index others.length with before | rfl | behind
    · rw [List.getElem?_append_left (by omega)] at here ⊢
      rw [List.take_append_of_le_length (by omega)]
      exact entries index one here
    · rw [List.getElem?_concat_length] at here
      cases here
      rw [← size, List.getElem?_concat_length, List.take_left]
    · rw [List.getElem?_eq_none (by simp; omega)] at here
      cases here

/-- Findings of some stretches that are all that can be found at each of them. -/
structure Explored (stretches : List Stretch) (history : List (List Finding)) : Prop where
  begins : ∀ first, stretches[0]? = some first → first.joint = none
  fits : ∀ last, ∀ finding ∈ history.getD last [], last < stretches.length
  innermost : ∀ last < stretches.length, .link ⟨last, width stretches last⟩ ∈ history.getD last []
  closed : ∀ last, ∀ finding ∈ history.getD last [], consequences stretches history finding ⊆ history.getD last []
  justified : ∀ last, ∀ finding ∈ history.getD last [], finding = .link ⟨last, width stretches last⟩ ∨
    ∃ earlier ∈ history.getD last [], finding ∈ consequences stretches history earlier
  inRange : ∀ last, ∀ finding ∈ history.getD last [], InRange stretches last finding

section History

variable {stretches : List Stretch} {history : List (List Finding)}

theorem getD_take {index count : Nat} (before : index < count) :
    (history.take count).getD index [] = history.getD index [] := by
  rw [List.getD_eq_getElem?_getD, List.getD_eq_getElem?_getD, List.getElem?_take_of_lt before]

theorem getD_of_length_le {index : Nat} (beyond : history.length ≤ index) : history.getD index [] = [] := by
  rw [List.getD_eq_getElem?_getD, List.getElem?_eq_none beyond]
  rfl

theorem getD_take_of_le {index count : Nat} (beyond : count ≤ index) : (history.take count).getD index [] = [] :=
  getD_of_length_le (Nat.le_trans (List.length_take_le _ _) beyond)

/-- Nothing is found twice at a stretch if nothing is found twice at those before it. -/
theorem nodup_consequences_take {last : Nat} (distinct : ∀ index < last, (history.getD index []).Nodup)
    (finding : Finding) : (consequences stretches (history.take last) finding).Nodup := by
  refine nodup_consequences (fun index => ?_) finding
  rcases Nat.lt_or_ge index last with before | beyond
  · rw [getD_take before]
    exact distinct index before
  · rw [getD_take_of_le beyond]
    exact List.nodup_nil

/-- What follows from a finding depends on what is found before only. -/
theorem consequences_take (begins : ∀ first, stretches[0]? = some first → first.joint = none) {last : Nat}
    {finding : Finding} (inRange : InRange stretches last finding) :
    consequences stretches (history.take last) finding = consequences stretches history finding := by
  cases finding with
  | link place =>
    obtain ⟨before, -⟩ := inRange
    have same : continued stretches (history.take last) place.stretch = continued stretches history place.stretch := by
      cases index : place.stretch with
      | zero =>
        have nothing : (stretches[0]?).bind (·.joint) = none := by
          cases first : stretches[0]? with
          | none => rfl
          | some here => exact begins here first
        simp [continued, nothing]
      | succ stretch =>
        rw [continued, continued, Nat.add_sub_cancel, getD_take (by omega)]
    rw [consequences, consequences, same]
  | tail tail =>
    have before : tail.joint < last := inRange
    rw [consequences, consequences, getD_take before]
  | goesOn place => rfl

/-- What follows from what can be found can be found. -/
theorem InRange.consequences {earlier : List (List Finding)} {last : Nat}
    (ofEarlier : ∀ index < last, ∀ finding ∈ earlier.getD index [], InRange stretches index finding)
    (empty : ∀ index, last ≤ index → earlier.getD index [] = []) {finding : Finding}
    (inRange : InRange stretches last finding) :
    ∀ next ∈ Chain.consequences stretches earlier finding, InRange stretches last next := by
  cases finding with
  | link place =>
    obtain ⟨before, fits⟩ := inRange
    rw [Chain.consequences]
    split
    · intro next member
      obtain ⟨tail, goesOn, rfl⟩ := List.mem_map.mp member
      rw [mem_continued] at goesOn
      obtain ⟨-, found⟩ := goesOn
      have nonempty : place.stretch - 1 < last := by
        by_contra beyond
        rw [empty _ (by omega)] at found
        simp at found
      rcases found with found | ⟨inner, found, -, joint⟩
      · have := ofEarlier _ nonempty _ found
        simp only [InRange] at this ⊢
        omega
      · simp only [InRange]
        omega
    · rename_i proper
      refine List.forall_mem_cons.mpr ⟨⟨before, by omega, fits⟩, List.forall_mem_singleton.mpr ⟨before, ?_⟩⟩
      simp only [Place.outer]
      omega
  | tail tail =>
    intro next member
    obtain ⟨place, head, rfl⟩ := List.mem_map.mp member
    obtain ⟨found, proper⟩ := mem_headed.mp (List.mem_filter.mp head).1
    have before : tail.joint < last := inRange
    obtain ⟨within, fits⟩ := ofEarlier _ before _ found
    refine ⟨?_, ?_⟩
    · simp only [Place.outer]
      omega
    · simp only [Place.outer]
      omega
  | goesOn place => nofun

/-- The findings of some stretches are all that can be found. -/
theorem explored_findings (begins : ∀ first, stretches[0]? = some first → first.joint = none) :
    Explored stretches (findings stretches) := by
  have entries := foldl_append_entry (fun history (each : Stretch × Nat) =>
    explore (consequences stretches history) (allowance stretches) [.link ⟨each.2, each.1.opened.length⟩]
      [.link ⟨each.2, each.1.opened.length⟩]) stretches.zipIdx
  obtain ⟨size, entries⟩ := entries
  rw [List.length_zipIdx] at size
  change (findings stretches).length = _ at size
  have entry (last : Nat) (fits : last < stretches.length) : (findings stretches).getD last [] =
      explore (consequences stretches ((findings stretches).take last)) (allowance stretches)
        [.link ⟨last, width stretches last⟩] [.link ⟨last, width stretches last⟩] := by
    have here := entries last (stretches[last], last) (by simp [fits])
    have wide : width stretches last = stretches[last].opened.length := by simp [width, fits]
    rw [wide, List.getD_eq_getElem?_getD]
    exact congrArg (Option.getD · []) here
  have outside (last : Nat) (beyond : stretches.length ≤ last) : (findings stretches).getD last [] = [] :=
    getD_of_length_le (by omega)
  generalize findings stretches = history at entry outside
  have handed (last : Nat)
      (ofEarlier : ∀ index < last, ∀ finding ∈ history.getD index [], InRange stretches index finding)
      (finding : Finding) (inRange : InRange stretches last finding) :
      ∀ next ∈ consequences stretches (history.take last) finding, InRange stretches last next := by
    refine InRange.consequences (fun index before => ?_) (fun index beyond => ?_) inRange
    · rw [getD_take before]
      exact ofEarlier index before
    · exact getD_take_of_le beyond
  have start (last : Nat) : ∀ finding ∈ [Finding.link ⟨last, width stretches last⟩], InRange stretches last finding :=
    List.forall_mem_singleton.mpr ⟨Nat.le_refl _, Nat.le_refl _⟩
  have inRange : ∀ last, ∀ finding ∈ history.getD last [], InRange stretches last finding := by
    intro last
    induction last using Nat.strongRecOn with
    | _ last step =>
      rcases Nat.lt_or_ge last stretches.length with fits | beyond
      · rw [entry last fits]
        exact explore_invariant (handed last step) (start last)
      · rw [outside last beyond]
        nofun
  have distinct : ∀ last, (history.getD last []).Nodup := by
    intro last
    induction last using Nat.strongRecOn with
    | _ last step =>
      rcases Nat.lt_or_ge last stretches.length with fits | beyond
      · rw [entry last fits]
        exact (nodup_explore (nodup_consequences_take step) (List.nodup_singleton _) (List.Subset.refl _)).1
      · rw [outside last beyond]
        exact List.nodup_nil
  have follows (last : Nat) (finding : Finding) (member : finding ∈ history.getD last []) :
      consequences stretches (history.take last) finding = consequences stretches history finding :=
    consequences_take begins (inRange last finding member)
  have whole (last : Nat) (fits : last < stretches.length) :
      [Finding.link ⟨last, width stretches last⟩] ⊆ history.getD last [] ∧
        ∀ finding ∈ history.getD last [], ∀ next ∈ consequences stretches (history.take last) finding,
          next ∈ [Finding.link ⟨last, width stretches last⟩] ∨ next ∈ history.getD last [] := by
    rw [entry last fits]
    exact explore_closed (fun finding inRange => inRange.mem_everything fits) (handed last fun index _ => inRange index)
      (nodup_consequences_take fun index _ => distinct index) (start last) (List.nodup_singleton _) (List.Subset.refl _)
      (Nat.add_le_add_right length_everything 1)
  have inside : ∀ last, ∀ finding ∈ history.getD last [], last < stretches.length := by
    intro last finding member
    by_contra beyond
    rw [outside last (by omega)] at member
    cases member
  refine ⟨begins, inside, fun last fits => (whole last fits).1 List.mem_cons_self,
    fun last finding member next followed => ?_, fun last finding member => ?_, inRange⟩
  · have fits := inside last finding member
    rw [← follows last finding member] at followed
    rcases (whole last fits).2 finding member next followed with first | found
    · exact (whole last fits).1 first
    · exact found
  · have fits := inside last finding member
    have found := member
    rw [entry last fits] at found
    rcases mem_explore found with first | ⟨earlier, explored, followed⟩
    · exact .inl (List.mem_singleton.mp first)
    · rw [← entry last fits] at explored
      rw [follows last earlier explored] at followed
      exact .inr ⟨earlier, explored, followed⟩

end History

end Exposure.Chain
