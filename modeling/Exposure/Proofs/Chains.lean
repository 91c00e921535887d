import Exposure.Proofs.Exploration
import Mathlib.Data.List.Chain
import Mathlib.Data.Nat.Init

/-!
Which chain each stretch continues: whenever the stretches can be put on open chains at all, the owners that are found put
each of them on a chain that is open and of its kind.
-/

namespace Exposure.Chain

/-! Stretches on open chains -/

/-- The chains that a stretch opens behind a level. -/
def opensBehind (stretches : List Stretch) (stretch level : Nat) : List Place :=
  (List.range' (level + 1) (width stretches stretch - level)).map (⟨stretch, ·⟩)

/-- Stretches from one to another are put on open chains of their kinds, each of which closes the chains inside its chain. -/
inductive PutOn (stretches : List Stretch) : Nat → List Place → List Place → Nat → List Place → Prop
  | nil (last : Nat) (opened : List Place) : PutOn stretches last opened [] last opened
  | cons {last final : Nat} {here : Stretch} {kind : ChainKind} {outer inner owners ends : List Place} {owner : Place}
      (next : stretches[last + 1]? = some here) (joins : here.joint = some kind)
      (isKind : kindAt? stretches owner = some kind)
      (others : PutOn stretches (last + 1) (outer ++ owner :: opensBehind stretches (last + 1) 0) owners final ends) :
      PutOn stretches last (outer ++ owner :: inner) (owner :: owners) final ends

section Owners

variable {stretches : List Stretch} {history : List (List Finding)}

theorem PutOn.append {first middle last : Nat} {before between behind one two : List Place}
    (ofOne : PutOn stretches first before one middle between) (ofTwo : PutOn stretches middle between two last behind) :
    PutOn stretches first before (one ++ two) last behind := by
  induction ofOne with
  | nil => exact ofTwo
  | cons next joins isKind _ step => exact .cons next joins isKind (step ofTwo)

theorem PutOn.length {first last : Nat} {before behind owners : List Place}
    (putOn : PutOn stretches first before owners last behind) : last = first + owners.length := by
  induction putOn with
  | nil => rfl
  | cons _ _ _ _ step => rw [step, List.length_cons, Nat.add_right_comm, Nat.add_assoc]

theorem opensBehind_of_le {stretch level : Nat} (beyond : width stretches stretch ≤ level) :
    opensBehind stretches stretch level = [] := by
  rw [opensBehind, Nat.sub_eq_zero_of_le beyond]
  rfl

theorem opensBehind_of_lt {stretch level : Nat} (opens : level < width stretches stretch) :
    opensBehind stretches stretch level = ⟨stretch, level + 1⟩ :: opensBehind stretches stretch (level + 1) := by
  have size : width stretches stretch - level = width stretches stretch - (level + 1) + 1 := by omega
  rw [opensBehind, opensBehind, size, List.range'_succ, List.map_cons]

/-- A chain ends with a stretch: its only link does, or its last link of several. -/
def Ends (stretches : List Stretch) (history : List (List Finding)) (last : Nat) (place : Place) : Prop :=
  .link place ∈ history.getD last [] ∨
    ∃ tail, .tail tail ∈ history.getD last [] ∧ kindAt? stretches place = some tail.kind ∧
      .link place ∈ history.getD tail.joint []

variable (explored : Explored stretches history)

include explored

theorem Explored.exists_continued {last : Nat} {tail : Tail} (found : .tail tail ∈ history.getD last []) :
    ∃ stretch, .link ⟨stretch, 0⟩ ∈ history.getD last [] ∧ tail ∈ continued stretches history stretch := by
  rcases explored.justified last _ found with impossible | ⟨earlier, member, follows⟩
  · cases impossible
  cases earlier with
  | link place =>
    rw [consequences] at follows
    split at follows
    · rename_i outermost
      obtain ⟨other, goesOn, same⟩ := List.mem_map.mp follows
      cases same
      obtain ⟨stretch, level⟩ := place
      obtain rfl : level = 0 := outermost
      exact ⟨stretch, member, goesOn⟩
    · simp at follows
  | tail other => simp [consequences] at follows
  | goesOn place => cases follows

theorem Explored.ends_of_link {last stretch level : Nat} (found : .link ⟨stretch, level⟩ ∈ history.getD last []) :
    (stretch = last ∧ level = width stretches last) ∨ Ends stretches history last ⟨stretch, level + 1⟩ := by
  rcases explored.justified last _ found with innermost | ⟨earlier, member, follows⟩
  · cases innermost
    exact .inl ⟨rfl, rfl⟩
  have inner {place : Place} (proper : place.level ≠ 0) (same : place.outer = ⟨stretch, level⟩) :
      place = ⟨stretch, level + 1⟩ := by
    obtain ⟨at', _ | level'⟩ := place
    · exact absurd rfl proper
    · cases same
      rfl
  cases earlier with
  | link place =>
    rw [consequences] at follows
    split at follows
    · simp at follows
    · rename_i proper
      obtain same : ⟨stretch, level⟩ = place.outer := by simpa using follows
      obtain rfl := inner proper same.symm
      exact .inr (.inl member)
  | tail tail =>
    obtain ⟨place, head, same⟩ := List.mem_map.mp follows
    obtain ⟨head, isKind⟩ := List.mem_filter.mp head
    obtain ⟨begun, proper⟩ := mem_headed.mp head
    obtain rfl := inner proper (Finding.link.inj same)
    exact .inr (.inr ⟨tail, member, of_decide_eq_true isKind, begun⟩)
  | goesOn place => cases follows

theorem Explored.lt_of_continued {stretch : Nat} {tail : Tail}
    (goesOn : tail ∈ continued stretches history stretch) :
    tail.joint < stretch ∧ (tail.joint + 1 ≠ stretch → .tail tail ∈ history.getD (stretch - 1) []) := by
  obtain ⟨⟨here, there, joins⟩, found⟩ := mem_continued.mp goesOn
  have proper : stretch ≠ 0 := by
    rintro rfl
    cases joins.symm.trans (explored.begins here there)
  rcases found with found | ⟨place, found, -, joint⟩
  · have before : tail.joint < stretch - 1 := explored.inRange _ _ found
    exact ⟨by omega, fun _ => found⟩
  · exact ⟨by omega, by omega⟩

theorem Explored.lastLink_mem {last : Nat} {tail : Tail} (found : .tail tail ∈ history.getD last []) :
    .link ⟨lastLink stretches history tail last, 0⟩ ∈ history.getD last [] ∧
      tail ∈ continued stretches history (lastLink stretches history tail last) := by
  obtain ⟨stretch, member, goesOn⟩ := explored.exists_continued found
  rw [lastLink]
  generalize listed : (history.getD last []).filterMap _ = candidates
  have mem_candidates {candidate : Nat} : candidate ∈ candidates ↔
      .link ⟨candidate, 0⟩ ∈ history.getD last [] ∧ tail ∈ continued stretches history candidate := by
    rw [← listed, List.mem_filterMap]
    constructor
    · rintro ⟨finding, member, same⟩
      cases finding with
      | link place =>
        obtain ⟨at', level⟩ := place
        simp only [Bool.and_eq_true, decide_eq_true_eq, List.contains_iff_mem, Option.ite_none_right_eq_some,
          Option.some.injEq] at same
        obtain ⟨⟨rfl, goesOn⟩, rfl⟩ := same
        exact ⟨member, goesOn⟩
      | _ => cases same
    · rintro ⟨member, goesOn⟩
      exact ⟨.link ⟨candidate, 0⟩, member, by simp [goesOn]⟩
  split
  · rename_i single
    exact mem_candidates.mp (List.contains_iff_mem.mp single)
  · have some : stretch ∈ candidates := mem_candidates.mpr ⟨member, goesOn⟩
    cases candidates with
    | nil => cases some
    | cons first others => exact mem_candidates.mp List.mem_cons_self

omit explored in
theorem firstJoint?_eq_some {kind : ChainKind} {place : Place} {last joint : Nat}
    (found : firstJoint? history kind place last = some joint) :
    .tail ⟨kind, joint⟩ ∈ history.getD last [] ∧ .link place ∈ history.getD joint [] := by
  obtain ⟨finding, member, same⟩ := List.exists_of_findSome?_eq_some found
  cases finding with
  | tail tail =>
    obtain ⟨kind', joint'⟩ := tail
    simp only [Bool.and_eq_true, decide_eq_true_eq, List.contains_iff_mem, Option.ite_none_right_eq_some,
      Option.some.injEq] at same
    obtain ⟨⟨rfl, head⟩, rfl⟩ := same
    exact ⟨member, (mem_headed.mp head).1⟩
  | _ => cases same

omit explored in
theorem link_of_firstJoint?_eq_none {kind : ChainKind} {place : Place} {last : Nat} (proper : place.level ≠ 0)
    (isKind : kindAt? stretches place = some kind) (none : firstJoint? history kind place last = none)
    (ends : Ends stretches history last place) : .link place ∈ history.getD last [] := by
  rcases ends with link | ⟨tail, member, sameKind, head⟩
  · exact link
  · obtain rfl : tail.kind = kind := Option.some.inj (sameKind.symm.trans isKind)
    have heads : (headed (history.getD tail.joint [])).contains place = true :=
      List.contains_iff_mem.mpr (mem_headed.mpr ⟨head, proper⟩)
    have nothing := List.findSome?_eq_none_iff.mp none _ member
    simp only [heads, decide_true, Bool.and_self, ↓reduceIte, reduceCtorEq] at nothing

/-- The owners inside a link and inside a tail put the stretches there on open chains. -/
theorem Explored.putOn (fuel : Nat) :
    (∀ stretch level last, .link ⟨stretch, level⟩ ∈ history.getD last [] →
      allowanceBefore stretches (last + 1) ≤ fuel + allowanceBefore stretches stretch + 2 * level →
      ∀ outer, ∃ inner, PutOn stretches stretch (outer ++ opensBehind stretches stretch level)
        (ownersInChain stretches history fuel ⟨stretch, level + 1⟩ last) last (outer ++ inner)) ∧
    ∀ place tail last, .tail tail ∈ history.getD last [] → kindAt? stretches place = some tail.kind →
      allowanceBefore stretches (last + 1) + 1 ≤ fuel + allowanceBefore stretches (tail.joint + 1) →
      ∀ outer inner, ∃ inner', PutOn stretches tail.joint (outer ++ place :: inner)
        (ownersInTail stretches history fuel place tail last) last (outer ++ place :: inner') := by
  induction fuel with
  | zero =>
    constructor
    · intro stretch level last found enough
      have fits := explored.fits _ _ found
      obtain ⟨before, within⟩ := explored.inRange _ _ found
      have more := allowanceBefore_mono stretches (Nat.succ_le_succ before) (by omega)
      rw [Nat.succ_eq_add_one, allowanceBefore_succ (Nat.lt_of_le_of_lt before fits)] at more
      simp only [Nat.succ_eq_add_one] at *
      omega
    · intro place tail last found _ enough
      have fits := explored.fits _ _ found
      have before : tail.joint < last := explored.inRange _ _ found
      have more := allowanceBefore_mono stretches (Nat.succ_le_succ (Nat.le_of_lt before)) (by omega)
      simp only [Nat.succ_eq_add_one] at *
      omega
  | succ fuel step =>
    obtain ⟨inLink, inTail⟩ := step
    constructor
    · intro stretch level last found enough outer
      rcases explored.ends_of_link found with ⟨rfl, rfl⟩ | ends
      · have none : kindAt? stretches ⟨stretch, width stretches stretch + 1⟩ = none := by
          cases isKind : kindAt? stretches ⟨stretch, width stretches stretch + 1⟩ with
          | none => rfl
          | some kind => exact absurd (exists_kindAt isKind).2 (Nat.not_succ_le_self _)
        rw [ownersInChain, none, opensBehind_of_le (Nat.le_refl _)]
        exact ⟨[], .nil _ _⟩
      · have opens : level < width stretches stretch := by
          rcases ends with link | ⟨tail, -, -, head⟩
          · exact (explored.inRange _ _ link).2
          · exact (explored.inRange _ _ head).2
        obtain ⟨kind, isKind⟩ : ∃ kind, kindAt? stretches ⟨stretch, level + 1⟩ = some kind :=
          kindAt_isSome (Nat.succ_pos level) opens
        have fits := explored.fits _ _ found
        have before : stretch ≤ last := (explored.inRange _ _ found).1
        rw [ownersInChain, isKind, opensBehind_of_lt opens, List.append_cons]
        dsimp only
        split
        · rename_i single
          have link := link_of_firstJoint?_eq_none (Nat.succ_ne_zero level) isKind single ends
          obtain ⟨inner, putOn⟩ := inLink _ _ _ link (by omega) (outer ++ [⟨stretch, level + 1⟩])
          rw [List.append_assoc _ _ inner] at putOn
          exact ⟨⟨stretch, level + 1⟩ :: inner, putOn⟩
        · rename_i joint several
          obtain ⟨tail, link⟩ := firstJoint?_eq_some several
          have earlier : joint < last := explored.inRange _ _ tail
          have begun : stretch ≤ joint := (explored.inRange _ _ link).1
          have more := allowanceBefore_mono stretches (Nat.succ_le_succ (Nat.le_of_lt earlier)) (by omega)
          have start := allowanceBefore_mono stretches (Nat.succ_le_succ begun) (by omega)
          have first := allowanceBefore_succ (Nat.lt_of_le_of_lt before fits)
          simp only [Nat.succ_eq_add_one] at more start
          obtain ⟨between, ofFirst⟩ := inLink _ _ _ link (by omega) (outer ++ [⟨stretch, level + 1⟩])
          rw [List.append_assoc _ _ between] at ofFirst
          obtain ⟨inner, ofTail⟩ := inTail _ _ _ tail isKind (by dsimp only; omega) outer between
          exact ⟨⟨stretch, level + 1⟩ :: inner, ofFirst.append ofTail⟩
    · intro place tail last found isKind enough outer inner
      obtain ⟨link, goesOn⟩ := explored.lastLink_mem found
      rw [ownersInTail]
      generalize lastLink stretches history tail last = stretch at link goesOn
      have fits := explored.fits _ _ found
      have before : stretch ≤ last := (explored.inRange _ _ link).1
      obtain ⟨behind, several⟩ := explored.lt_of_continued goesOn
      obtain ⟨⟨here, next, joins⟩, -⟩ := mem_continued.mp goesOn
      obtain ⟨stretch, rfl⟩ : ∃ previous, stretch = previous + 1 := ⟨stretch - 1, by omega⟩
      have least := allowanceBefore_mono stretches (Nat.succ_le_of_lt behind) (by omega)
      simp only [Nat.succ_eq_add_one] at least
      obtain ⟨inner', ofLink⟩ := inLink _ _ _ link (by omega) (outer ++ [place])
      rw [List.append_assoc, List.append_assoc] at ofLink
      simp only [Nat.add_sub_cancel] at several ⊢
      split
      · rename_i single
        obtain rfl : stretch = tail.joint := Nat.succ.inj single
        exact ⟨inner', .cons next joins isKind ofLink⟩
      · rename_i apart
        have earlier := several (Ne.symm apart)
        have more := allowanceBefore_mono stretches (Nat.succ_le_succ before) (by omega)
        rw [Nat.succ_eq_add_one, allowanceBefore_succ (Nat.lt_of_le_of_lt before fits)] at more
        simp only [Nat.succ_eq_add_one] at more
        obtain ⟨between, ofEarlier⟩ := inTail _ _ _ earlier isKind (by omega) outer inner
        exact ⟨inner', ofEarlier.append (.cons next joins isKind ofLink)⟩

end Owners

/-! What is found when the stretches can be put on open chains -/

section Complete

variable {stretches : List Stretch} {history : List (List Finding)}

/-- A chain lies in the last link of another one. -/
def LiesIn (stretches : List Stretch) (history : List (List Finding)) (outer inner : Place) : Prop :=
  inner = outer.inner ∨ inner.level = 1 ∧ ∃ tail ∈ continued stretches history inner.stretch,
    kindAt? stretches outer = some tail.kind ∧ .link outer ∈ history.getD tail.joint []

/-- Open chains lie in one another, outermost first, and all of them end with a stretch. -/
structure AreOpen (stretches : List Stretch) (history : List (List Finding)) (last : Nat) (opened : List Place) :
    Prop where
  whole : .link ⟨0, 0⟩ ∈ history.getD last []
  outermost : ∀ place ∈ opened.head?, place = ⟨0, 1⟩
  nested : opened.IsChain (LiesIn stretches history)
  ends : ∀ place ∈ opened, Ends stretches history last place ∧ place.level ≠ 0

variable (explored : Explored stretches history)

include explored

theorem Explored.ends_outer {last : Nat} {place : Place} (proper : place.level ≠ 0)
    (ends : Ends stretches history last place) : .link place.outer ∈ history.getD last [] := by
  rcases ends with link | ⟨tail, member, isKind, head⟩
  · refine explored.closed _ _ link ?_
    rw [consequences, if_neg proper]
    simp
  · refine explored.closed _ _ member ?_
    exact List.mem_map_of_mem (List.mem_filter.mpr ⟨mem_headed.mpr ⟨head, proper⟩, decide_eq_true isKind⟩)

theorem Explored.ends_of_liesIn {last : Nat} {outer inner : Place} (lies : LiesIn stretches history outer inner)
    (link : .link inner.outer ∈ history.getD last []) : Ends stretches history last outer := by
  rcases lies with rfl | ⟨first, tail, goesOn, isKind, head⟩
  · exact .inl link
  · refine .inr ⟨tail, explored.closed _ _ link ?_, isKind, head⟩
    have outermost : inner.outer = ⟨inner.stretch, 0⟩ := by rw [Place.outer, first]
    rw [outermost, consequences, if_pos rfl]
    exact List.mem_map_of_mem goesOn

theorem Explored.ends_of_nested {last : Nat} {outer : List Place} {place : Place}
    (nested : (outer ++ [place]).IsChain (LiesIn stretches history))
    (proper : ∀ each ∈ outer ++ [place], each.level ≠ 0) (ends : Ends stretches history last place) :
    ∀ each ∈ outer, Ends stretches history last each := by
  induction outer using List.reverseRecOn generalizing place with
  | nil => nofun
  | append_singleton others next step =>
    obtain ⟨before, -, lies⟩ := List.isChain_append.mp nested
    have properPlace := proper place (List.mem_append_right _ List.mem_cons_self)
    have nextEnds : Ends stretches history last next :=
      explored.ends_of_liesIn (lies next (by simp) place (by simp)) (explored.ends_outer properPlace ends)
    refine List.forall_mem_append.mpr ⟨?_, List.forall_mem_singleton.mpr nextEnds⟩
    exact step before (fun each member => proper each (List.mem_append_left _ member)) nextEnds

theorem Explored.exists_goesOn {last : Nat} {place : Place} {here : Stretch} {kind : ChainKind}
    (next : stretches[last + 1]? = some here) (joins : here.joint = some kind)
    (isKind : kindAt? stretches place = some kind) (ends : Ends stretches history last place) :
    ∃ tail ∈ continued stretches history (last + 1), tail.kind = kind ∧ .link place ∈ history.getD tail.joint [] := by
  rcases ends with link | ⟨tail, member, sameKind, head⟩
  · have goesOn : .goesOn place ∈ history.getD last [] := by
      refine explored.closed _ _ link ?_
      rw [consequences, if_neg (Nat.ne_of_gt (exists_kindAt isKind).1)]
      exact List.mem_cons_self
    exact ⟨⟨kind, last⟩, mem_continued.mpr ⟨⟨here, next, joins⟩, .inr ⟨place, goesOn, isKind, rfl⟩⟩, rfl, link⟩
  · obtain rfl : tail.kind = kind := Option.some.inj (sameKind.symm.trans isKind)
    exact ⟨tail, mem_continued.mpr ⟨⟨here, next, joins⟩, .inl member⟩, rfl, head⟩

/-- Every chain that a stretch opens ends with it. -/
theorem Explored.link_of_le {last : Nat} (fits : last < stretches.length) {level : Nat}
    (within : level ≤ width stretches last) : .link ⟨last, level⟩ ∈ history.getD last [] := by
  induction within using Nat.decreasingInduction with
  | self => exact explored.innermost last fits
  | of_succ level _ step =>
    exact explored.ends_outer (Nat.succ_ne_zero level) (.inl step)

omit explored in
theorem mem_opensBehind {stretch level : Nat} {place : Place} :
    place ∈ opensBehind stretches stretch level ↔
      place.stretch = stretch ∧ level < place.level ∧ place.level ≤ width stretches stretch := by
  rw [opensBehind, List.mem_map]
  constructor
  · rintro ⟨level', listed, rfl⟩
    rw [List.mem_range'_1] at listed
    refine ⟨rfl, ?_, ?_⟩ <;> dsimp only <;> omega
  · rintro ⟨rfl, behind, within⟩
    exact ⟨place.level, List.mem_range'_1.mpr (by omega), rfl⟩

omit explored in
theorem isChain_opensBehind (stretch level : Nat) :
    (opensBehind stretches stretch level).IsChain (LiesIn stretches history) := by
  induction size : width stretches stretch - level generalizing level with
  | zero =>
    rw [opensBehind_of_le (by omega)]
    exact .nil
  | succ count step =>
    have behind := step (level + 1) (by omega)
    rw [opensBehind_of_lt (by omega)]
    rcases Nat.lt_or_ge (level + 1) (width stretches stretch) with more | last
    · rw [opensBehind_of_lt more] at behind ⊢
      exact .cons_cons (.inl rfl) behind
    · rw [opensBehind_of_le last]
      exact .singleton _

theorem Explored.ends_of_opened {last : Nat} (fits : last < stretches.length) {place : Place}
    (opened : place ∈ opensBehind stretches last 0) : Ends stretches history last place ∧ place.level ≠ 0 := by
  obtain ⟨rfl, proper, within⟩ := mem_opensBehind.mp opened
  exact ⟨.inl (explored.link_of_le fits within), Nat.ne_of_gt proper⟩

theorem Explored.areOpen_start (fits : 0 < stretches.length) :
    AreOpen stretches history 0 (opensBehind stretches 0 0) := by
  refine ⟨explored.link_of_le fits (Nat.zero_le _), fun place first => ?_, isChain_opensBehind 0 0,
    fun place => explored.ends_of_opened fits⟩
  rcases Nat.eq_zero_or_pos (width stretches 0) with none | some
  · simp [opensBehind_of_le (Nat.le_of_eq none)] at first
  · rw [opensBehind_of_lt some] at first
    exact (Option.some.inj first).symm

/-- Open chains stay open up to the one that a stretch is put on. -/
theorem Explored.areOpen_step {last : Nat} {here : Stretch} {kind : ChainKind} {outer inner : List Place} {owner : Place}
    (next : stretches[last + 1]? = some here) (joins : here.joint = some kind)
    (isKind : kindAt? stretches owner = some kind)
    (areOpen : AreOpen stretches history last (outer ++ owner :: inner)) :
    AreOpen stretches history (last + 1) (outer ++ owner :: opensBehind stretches (last + 1) 0) := by
  obtain ⟨-, outermost, nested, ends⟩ := areOpen
  obtain ⟨fits, -⟩ := List.getElem?_eq_some_iff.mp next
  have owned := ends owner (List.mem_append_right _ List.mem_cons_self)
  obtain ⟨tail, goesOn, sameKind, head⟩ := explored.exists_goesOn next joins isKind owned.1
  have isTail : kindAt? stretches owner = some tail.kind := by rw [isKind, sameKind]
  have begun : .link ⟨last + 1, 0⟩ ∈ history.getD (last + 1) [] := explored.link_of_le fits (Nat.zero_le _)
  have tailEnds : .tail tail ∈ history.getD (last + 1) [] := by
    refine explored.closed _ _ begun ?_
    rw [consequences, if_pos rfl]
    exact List.mem_map_of_mem goesOn
  have ownerEnds : Ends stretches history (last + 1) owner := .inr ⟨tail, tailEnds, isTail, head⟩
  obtain ⟨before, -⟩ := List.isChain_split.mp nested
  have proper : ∀ each ∈ outer ++ [owner], each.level ≠ 0 := by
    intro each member
    refine (ends each ?_).2
    rw [List.append_cons]
    exact List.mem_append_left _ member
  have outerEnds := explored.ends_of_nested before proper ownerEnds
  refine ⟨?_, ?_, List.isChain_split.mpr ⟨before, ?_⟩, ?_⟩
  · -- the outermost chain ends, and so does the link that the first stretch begins with
    have endsFirst (first : Place) (isFirst : first = ⟨0, 1⟩) (firstEnds : Ends stretches history (last + 1) first) :
        .link ⟨0, 0⟩ ∈ history.getD (last + 1) [] := by
      subst isFirst
      exact explored.ends_outer (Nat.succ_ne_zero 0) firstEnds
    cases outer with
    | nil => exact endsFirst owner (outermost owner rfl) ownerEnds
    | cons first others => exact endsFirst first (outermost first rfl) (outerEnds first List.mem_cons_self)
  · cases outer with
    | nil => exact outermost
    | cons first others => exact outermost
  · rcases Nat.eq_zero_or_pos (width stretches (last + 1)) with none | some
    · rw [opensBehind_of_le (Nat.le_of_eq none)]
      exact .singleton _
    · have opened : (opensBehind stretches (last + 1) 0).IsChain (LiesIn stretches history) :=
        isChain_opensBehind (last + 1) 0
      rw [opensBehind_of_lt some] at opened ⊢
      exact .cons_cons (.inr ⟨rfl, tail, goesOn, isTail, head⟩) opened
  · refine List.forall_mem_append.mpr ⟨fun each member => ⟨outerEnds each member, proper each ?_⟩,
      List.forall_mem_cons.mpr ⟨⟨ownerEnds, owned.2⟩, fun place => explored.ends_of_opened fits⟩⟩
    exact List.mem_append_left _ member

theorem Explored.areOpen_of_putOn {first last : Nat} {before behind owners : List Place}
    (areOpen : AreOpen stretches history first before) (putOn : PutOn stretches first before owners last behind) :
    AreOpen stretches history last behind := by
  induction putOn with
  | nil => exact areOpen
  | cons next joins isKind _ step => exact step (explored.areOpen_step next joins isKind areOpen)

end Complete

/-- Where all stretches can be put on open chains, the owners that are found put them on open chains. -/
theorem putOn_owners {stretches : List Stretch} (begins : ∀ first, stretches[0]? = some first → first.joint = none)
    {some behind : List Place}
    (putOn : PutOn stretches 0 (opensBehind stretches 0 0) some (stretches.length - 1) behind)
    (fits : 0 < stretches.length) :
    ∃ ends, PutOn stretches 0 (opensBehind stretches 0 0) (owners stretches) (stretches.length - 1) ends := by
  have explored := explored_findings begins
  have areOpen := explored.areOpen_of_putOn (explored.areOpen_start fits) putOn
  have size : stretches.length - 1 + 1 = stretches.length := Nat.sub_add_cancel fits
  refine (explored.putOn (allowance stretches)).1 0 0 (stretches.length - 1) areOpen.whole ?_ []
  rw [size, allowanceBefore_length]
  omega

end Exposure.Chain
