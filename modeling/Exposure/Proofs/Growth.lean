import Exposure.Proofs.Chains
import Exposure.Syntax.TypeExpr.Spine

/-!
How a type grows from its head: where its suffixes fit onto open chains, each of them is put behind what stands there already,
and nothing else in the type changes.
-/

namespace Exposure

namespace Chain

/-- Stretches go on open chains of their kinds, outermost first, and leave others open. -/
inductive Attaches : List ChainKind → List Stretch → List ChainKind → Prop
  | nil (opened : List ChainKind) : Attaches opened [] opened
  | cons {outer inner last : List ChainKind} {kind : ChainKind} {next : Stretch} {others : List Stretch}
      (joins : next.joint = some kind) (behind : Attaches (outer ++ kind :: next.opened) others last) :
      Attaches (outer ++ kind :: inner) (next :: others) last

namespace Attaches

theorem append {first middle last : List ChainKind} {one two : List Stretch} (ofOne : Attaches first one middle)
    (ofTwo : Attaches middle two last) : Attaches first (one ++ two) last := by
  induction ofOne with
  | nil => exact ofTwo
  | cons joins _ step => exact .cons joins (step ofTwo)

/-- Chains around those that are open do not matter. -/
theorem within {first last : List ChainKind} {stretches : List Stretch} (attaches : Attaches first stretches last)
    (around : List ChainKind) : Attaches (around ++ first) stretches (around ++ last) := by
  induction attaches with
  | nil => exact .nil _
  | cons joins _ step =>
    rw [← List.append_assoc] at step ⊢
    exact .cons joins step

end Attaches

section Kinds

variable {stretches : List Stretch}

theorem map_kindAt_opensBehind {index : Nat} {here : Stretch} (there : stretches[index]? = some here) :
    (opensBehind stretches index 0).map (kindAt? stretches) = here.opened.map some := by
  have wide : width stretches index = here.opened.length := by simp [width, there]
  rw [opensBehind, wide, Nat.sub_zero, List.map_map]
  refine List.ext_getElem (by simp) fun level _ inside => ?_
  rw [List.length_map] at inside
  simp [kindAt?, there, Nat.add_comm 1 level, inside]

/-- Where stretches go on chains of the right kinds, they can be put on open chains. -/
theorem Attaches.exists_putOn {kinds last : List ChainKind} {others : List Stretch} (attaches : Attaches kinds others last)
    {index : Nat} (rest : stretches.drop (index + 1) = others) {opened : List Place}
    (same : opened.map (kindAt? stretches) = kinds.map some) :
    ∃ owners ends, PutOn stretches index opened owners (index + others.length) ends := by
  induction attaches generalizing index opened with
  | nil => exact ⟨[], opened, .nil _ _⟩
  | @cons outer inner last kind next others joins _ step =>
    rw [List.map_append, List.map_cons] at same
    obtain ⟨outside, inside, rfl, sameOuter, sameInner⟩ := List.map_eq_append_iff.mp same
    obtain ⟨owner, behind, rfl, isKind, -⟩ := List.map_eq_cons_iff.mp sameInner
    clear same
    have there : stretches[index + 1]? = some next := by
      rw [← List.head?_drop, rest]
      rfl
    have later : stretches.drop (index + 1 + 1) = others := by
      rw [← List.drop_drop, rest]
      rfl
    have reopened : (outside ++ owner :: opensBehind stretches (index + 1) 0).map (kindAt? stretches) =
        (outer ++ kind :: next.opened).map some := by
      rw [List.map_append, List.map_cons, sameOuter, isKind, map_kindAt_opensBehind there, List.map_append, List.map_cons]
    obtain ⟨owners, ends, putOn⟩ := step later reopened
    rw [Nat.add_assoc, Nat.add_comm 1] at putOn
    exact ⟨owner :: owners, ends, .cons there joins isKind putOn⟩

end Kinds

end Chain

namespace TypeExpr

/-- A type at whose end no chain is open. -/
def isClosed : TypeExpr → Bool
  | tuple _ => true
  | slice _ => true
  | array _ _ => true
  | never => true
  | lifetime _ => true
  | binding _ _ => true
  | const _ => true
  | grouped _ => true
  | _ => false

/-- The chains that are open at the end of a type, outermost first, each with a link. -/
inductive Opens : TypeExpr → List ChainKind → Prop
  | plain (front : List PathSegment) (name : String) (arguments : List TypeExpr) :
      Opens (path (front ++ [.plain name arguments])) [.path]
  | call (front : List PathSegment) (name : String) (inputs : List TypeExpr) :
      Opens (path (front ++ [.call name inputs none])) [.path]
  | output (front : List PathSegment) (name : String) (inputs : List TypeExpr) {output : TypeExpr} {kinds : List ChainKind}
      (inside : Opens output kinds) : Opens (path (front ++ [.call name inputs (some output)])) (.path :: kinds)
  | reference (life : Option String) (mutable : Bool) {target : TypeExpr} {kinds : List ChainKind}
      (inside : Opens target kinds) : Opens (reference life mutable target) kinds
  | pointer (mutable : Bool) {target : TypeExpr} {kinds : List ChainKind} (inside : Opens target kinds) :
      Opens (pointer mutable target) kinds
  | maybe {bound : TypeExpr} {kinds : List ChainKind} (inside : Opens bound kinds) : Opens (maybe bound) kinds
  | bound (kind : BoundedKind) (front : List TypeExpr) {last : TypeExpr} {kinds : List ChainKind}
      (inside : Opens last kinds) : Opens (bounded kind (front ++ [last])) (.bounds :: kinds)
  | closed {type : TypeExpr} (isClosed : type.isClosed = true) : Opens type []

/-- A type has grown by a suffix that stands behind everything else in it. -/
inductive Grown : Suffix → TypeExpr → TypeExpr → Prop
  | segment (front : List PathSegment) (last added : PathSegment) :
      Grown (.segment added) (path (front ++ [last])) (path (front ++ [last, added]))
  | bound (kind : BoundedKind) (front : List TypeExpr) (last added : TypeExpr) :
      Grown (.bound added) (bounded kind (front ++ [last])) (bounded kind (front ++ [last, added]))
  | output (front : List PathSegment) (name : String) (inputs : List TypeExpr) {suffix : Suffix} {output output' : TypeExpr}
      (inside : Grown suffix output output') : Grown suffix (path (front ++ [.call name inputs (some output)]))
        (path (front ++ [.call name inputs (some output')]))
  | inner (kind : BoundedKind) (front : List TypeExpr) {suffix : Suffix} {last last' : TypeExpr}
      (inside : Grown suffix last last') : Grown suffix (bounded kind (front ++ [last])) (bounded kind (front ++ [last']))
  | reference (life : Option String) (mutable : Bool) {suffix : Suffix} {target target' : TypeExpr}
      (inside : Grown suffix target target') : Grown suffix (reference life mutable target) (reference life mutable target')
  | pointer (mutable : Bool) {suffix : Suffix} {target target' : TypeExpr} (inside : Grown suffix target target') :
      Grown suffix (pointer mutable target) (pointer mutable target')
  | maybe {suffix : Suffix} {bound bound' : TypeExpr} (inside : Grown suffix bound bound') :
      Grown suffix (maybe bound) (maybe bound')

/-- A type has grown by some suffixes, one behind another. -/
inductive Grows : TypeExpr → List Suffix → TypeExpr → Prop
  | nil (type : TypeExpr) : Grows type [] type
  | cons {suffix : Suffix} {others : List Suffix} {type between last : TypeExpr} (first : Grown suffix type between)
      (behind : Grows between others last) : Grows type (suffix :: others) last

end TypeExpr

/-- The output at the end of a segment, if there is one, opens chains with links. -/
def PathSegment.IsSolid : PathSegment → Prop
  | .call _ _ (some output) => output.Opens output.openChains
  | _ => True

/-- What is put on a chain opens chains with links. -/
def Suffix.IsSolid : Suffix → Prop
  | segment added => added.IsSolid
  | bound added => added.Opens added.openChains

namespace TypeExpr

theorem Opens.openChains {type : TypeExpr} {kinds : List ChainKind} (opens : Opens type kinds) : type.openChains = kinds := by
  have ofLast (front : List PathSegment) (last : PathSegment) :
      openInSegments (front ++ [last]) = openInSegment last := by
    induction front with
    | nil => rfl
    | cons first rest step => cases rest <;> exact step
  have ofLastBound (front : List TypeExpr) (last : TypeExpr) : openInBounds (front ++ [last]) = last.openChains := by
    induction front with
    | nil => rfl
    | cons first rest step => cases rest <;> exact step
  induction opens with
  | plain front name arguments => rw [TypeExpr.openChains, ofLast, openInSegment]
  | call front name inputs => rw [TypeExpr.openChains, ofLast, openInSegment]
  | output front name inputs _ step => rw [TypeExpr.openChains, ofLast, openInSegment, step]
  | reference life mutable _ step => rw [TypeExpr.openChains, step]
  | pointer mutable _ step => rw [TypeExpr.openChains, step]
  | maybe _ step => rw [TypeExpr.openChains, step]
  | bound kind front _ step => rw [TypeExpr.openChains, ofLastBound, step]
  | @closed type isClosed => cases type <;> first | rfl | cases isClosed

/-- A path opens what its last segment opens. -/
theorem Opens.path (front : List PathSegment) {segment : PathSegment} (solid : segment.IsSolid) :
    Opens (.path (front ++ [segment])) (.path :: openInSegment segment) := by
  cases segment with
  | plain name arguments => exact .plain front name arguments
  | call name inputs output =>
    cases output with
    | none => exact .call front name inputs
    | some output => exact .output front name inputs solid

/-! Extension -/

theorem extendSegments_append (suffix : Suffix) (depth : Nat) (front : List PathSegment) (last : PathSegment) :
    extendSegments suffix depth (front ++ [last]) = front ++ extendSegments suffix depth [last] := by
  induction front with
  | nil => rfl
  | cons first rest step =>
    have skips : extendSegments suffix depth (first :: (rest ++ [last])) =
        first :: extendSegments suffix depth (rest ++ [last]) := by
      cases rest with
      | nil => rw [List.nil_append, extendSegments] <;> nofun
      | cons second others => rw [List.cons_append, extendSegments] <;> nofun
    rw [List.cons_append, skips, step, List.cons_append]

theorem extendBounds_append (suffix : Suffix) (depth : Nat) (front : List TypeExpr) (last : TypeExpr) :
    extendBounds suffix depth (front ++ [last]) = front ++ extendBounds suffix depth [last] := by
  induction front with
  | nil => rfl
  | cons first rest step =>
    have skips : extendBounds suffix depth (first :: (rest ++ [last])) =
        first :: extendBounds suffix depth (rest ++ [last]) := by
      cases rest with
      | nil => rw [List.nil_append, extendBounds] <;> nofun
      | cons second others => rw [List.cons_append, extendBounds] <;> nofun
    rw [List.cons_append, skips, step, List.cons_append]

/-- A suffix goes behind everything else in a type, on an open chain of its kind, and closes the chains inside that one. -/
theorem Opens.extend {type : TypeExpr} {kinds : List ChainKind} (opens : Opens type kinds) {suffix : Suffix}
    (solid : suffix.IsSolid) {outer inner : List ChainKind} {kind : ChainKind} (split : kinds = outer ++ kind :: inner)
    (joins : suffix.stretch.joint = some kind) :
    Grown suffix type (type.extend suffix outer.length) ∧
      Opens (type.extend suffix outer.length) (outer ++ kind :: suffix.stretch.opened) := by
  have onPath (front : List PathSegment) (last : PathSegment) (isPath : kind = .path) :
      Grown suffix (.path (front ++ [last])) ((TypeExpr.path (front ++ [last])).extend suffix 0) ∧
        Opens ((TypeExpr.path (front ++ [last])).extend suffix 0) (kind :: suffix.stretch.opened) := by
    subst isPath
    cases suffix with
    | bound added => cases joins
    | segment added =>
      rw [TypeExpr.extend, extendSegments_append, extendSegments]
      refine ⟨.segment front last added, ?_⟩
      rw [List.append_cons]
      exact .path _ solid
  induction opens generalizing outer with
  | plain front name arguments =>
    cases outer with
    | nil => exact onPath front _ (List.cons.inj split).1.symm
    | cons first rest => simp at split
  | call front name inputs =>
    cases outer with
    | nil => exact onPath front _ (List.cons.inj split).1.symm
    | cons first rest => simp at split
  | output front name inputs inside step =>
    cases outer with
    | nil => exact onPath front _ (List.cons.inj split).1.symm
    | cons first rest =>
      obtain ⟨rfl, behind⟩ := List.cons.inj split
      obtain ⟨grown, opens⟩ := step behind
      rw [List.length_cons, TypeExpr.extend, extendSegments_append, extendSegments, extendSegment]
      exact ⟨.output front name inputs grown, .output front name inputs opens⟩
  | reference life mutable _ step =>
    obtain ⟨grown, opens⟩ := step split
    rw [TypeExpr.extend]
    exact ⟨.reference life mutable grown, .reference life mutable opens⟩
  | pointer mutable _ step =>
    obtain ⟨grown, opens⟩ := step split
    rw [TypeExpr.extend]
    exact ⟨.pointer mutable grown, .pointer mutable opens⟩
  | maybe _ step =>
    obtain ⟨grown, opens⟩ := step split
    rw [TypeExpr.extend]
    exact ⟨.maybe grown, .maybe opens⟩
  | @bound boundedKind front last kinds inside step =>
    cases outer with
    | nil =>
      obtain rfl : ChainKind.bounds = kind := (List.cons.inj split).1
      cases suffix with
      | segment added => cases joins
      | bound added =>
        rw [List.length_nil, TypeExpr.extend, extendBounds_append, extendBounds]
        refine ⟨.bound boundedKind front last added, ?_⟩
        rw [List.append_cons]
        exact .bound boundedKind _ solid
    | cons first rest =>
      obtain ⟨rfl, behind⟩ := List.cons.inj split
      obtain ⟨grown, opens⟩ := step behind
      rw [List.length_cons, TypeExpr.extend, extendBounds_append, extendBounds]
      exact ⟨.inner boundedKind front grown, .bound boundedKind front opens⟩
  | closed isClosed => simp at split

end TypeExpr

/-! Settling -/

namespace Spine

open Chain

section Join

variable {stretches : List Stretch}

theorem placesOf_eq {index : Nat} {here : Stretch} (there : stretches[index]? = some here) :
    placesOf index here = opensBehind stretches index 0 := by
  have wide : width stretches index = here.opened.length := by simp [width, there]
  rw [placesOf, opensBehind, wide, Nat.sub_zero, List.range_eq_range', Nat.zero_add, List.range'_eq_map_range,
    List.map_map, List.range'_eq_map_range, List.map_map]
  refine List.map_congr_left fun level _ => ?_
  simp [Nat.add_comm]

theorem nodup_opensBehind (index level : Nat) : (opensBehind stretches index level).Nodup := by
  refine List.Nodup.map (fun one two same => ?_) List.nodup_range'
  exact (Place.mk.inj same).2

/-- Suffixes that are put on open chains make the type grow. -/
theorem join_grows {index last : Nat} {opened owners ends : List Place}
    (putOn : PutOn stretches index opened owners last ends) (whole : last + 1 = stretches.length)
    (nodup : opened.Nodup) (before : ∀ place ∈ opened, place.stretch ≤ index) {type : TypeExpr} {kinds : List ChainKind}
    (opens : type.Opens kinds) (same : opened.map (kindAt? stretches) = kinds.map some) {suffixes : List Suffix}
    (rest : stretches.drop (index + 1) = suffixes.map Suffix.stretch) (solid : ∀ suffix ∈ suffixes, suffix.IsSolid) :
    type.Grows suffixes (join type opened (index + 1) (suffixes.zip owners)) := by
  induction putOn generalizing type kinds suffixes with
  | nil last opened =>
    rw [whole, List.drop_length] at rest
    obtain rfl := List.map_eq_nil_iff.mp rest.symm
    exact .nil type
  | @cons index last here kind outer inner owners ends owner next joins isKind others step =>
    obtain ⟨suffix, suffixes, rfl, rfl, later⟩ : ∃ suffix others, suffixes = suffix :: others ∧ suffix.stretch = here ∧
        stretches.drop (index + 1 + 1) = others.map Suffix.stretch := by
      have first : (suffixes.map Suffix.stretch).head? = some here := by rw [← rest, List.head?_drop, next]
      cases suffixes with
      | nil => cases first
      | cons suffix others =>
        refine ⟨suffix, others, rfl, Option.some.inj first, ?_⟩
        rw [← List.drop_drop, rest]
        rfl
    obtain ⟨ofFirst, ofRest⟩ := List.forall_mem_cons.mp solid
    have atOuter : (outer ++ owner :: inner).idxOf owner = outer.length := by
      have absent : owner ∉ outer := fun member =>
        (List.nodup_append.mp nodup).2.2 owner member owner List.mem_cons_self rfl
      rw [List.idxOf_append, if_neg absent, List.idxOf_cons_self, Nat.zero_add]
    rw [List.map_append, List.map_cons, isKind] at same
    obtain ⟨outerKinds, innerKinds, rfl, sameOuter, sameInner⟩ := List.map_eq_append_iff.mp same.symm
    obtain ⟨kind', inside, rfl, sameKind, -⟩ := List.map_eq_cons_iff.mp sameInner
    obtain rfl := Option.some.inj sameKind
    have deep : outer.length = outerKinds.length := by
      have := congrArg List.length sameOuter
      simpa using this.symm
    obtain ⟨grown, opens'⟩ := opens.extend ofFirst rfl joins
    rw [← deep] at grown opens'
    have reopened : (outer ++ owner :: inner).take (outer.length + 1) ++ placesOf (index + 1) suffix.stretch =
        outer ++ owner :: opensBehind stretches (index + 1) 0 := by
      rw [placesOf_eq next, List.append_cons outer owner inner, List.take_left' (by simp), List.append_assoc]
      rfl
    rw [List.zip_cons_cons, join, atOuter, reopened]
    have kept : ∀ place ∈ outer ++ [owner], place ∈ outer ++ owner :: inner := by
      intro place member
      rw [List.append_cons]
      exact List.mem_append_left _ member
    have fresh : ∀ place ∈ opensBehind stretches (index + 1) 0, place.stretch = index + 1 :=
      fun place member => (mem_opensBehind.mp member).1
    refine .cons grown (step whole ?_ ?_ opens' ?_ later ofRest)
    · rw [List.append_cons, List.nodup_append]
      refine ⟨?_, nodup_opensBehind _ _, ?_⟩
      · rw [List.append_cons] at nodup
        exact (List.nodup_append.mp nodup).1
      · rintro place member _ new rfl
        have old := before place (kept place member)
        have := fresh place new
        omega
    · rw [List.append_cons]
      refine List.forall_mem_append.mpr ⟨fun place member => ?_, fun place new => Nat.le_of_eq (fresh place new)⟩
      exact Nat.le_succ_of_le (before place (kept place member))
    · rw [List.map_append, List.map_cons, isKind, map_kindAt_opensBehind next, ← sameOuter, List.map_append, List.map_cons]

end Join

/-- A spine whose suffixes fit onto its open chains grows to the type that it stands for. -/
theorem settle_grows {spine : Spine TypeExpr} (opens : spine.head.Opens spine.head.openChains)
    (solid : ∀ suffix ∈ spine.suffixes, suffix.IsSolid) {last : List ChainKind}
    (attaches : Attaches spine.head.openChains (spine.suffixes.map Suffix.stretch) last) :
    spine.head.Grows spine.suffixes spine.settle := by
  have begins : ∀ first,
      (⟨none, spine.head.openChains⟩ :: spine.suffixes.map Suffix.stretch : List Stretch)[0]? = some first →
        first.joint = none := by
    intro first same
    cases same
    rfl
  rw [settle, owners]
  generalize whole : (⟨none, spine.head.openChains⟩ :: spine.suffixes.map Suffix.stretch : List Stretch) = stretches
    at begins
  have first : stretches[0]? = some ⟨none, spine.head.openChains⟩ := by rw [← whole]; rfl
  have rest : stretches.drop (0 + 1) = spine.suffixes.map Suffix.stretch := by rw [← whole]; rfl
  have size : stretches.length = spine.suffixes.length + 1 := by rw [← whole]; simp
  have same : (placesOf 0 ⟨none, spine.head.openChains⟩).map (kindAt? stretches) = spine.head.openChains.map some := by
    rw [placesOf_eq first, map_kindAt_opensBehind first]
  obtain ⟨some, behind, putOn⟩ := attaches.exists_putOn rest same
  have count : 0 + (spine.suffixes.map Suffix.stretch).length = stretches.length - 1 := by rw [size]; simp
  rw [placesOf_eq first, count] at putOn
  obtain ⟨ends, putOn⟩ := putOn_owners begins putOn (by omega)
  rw [placesOf_eq first]
  refine join_grows putOn (by omega) (nodup_opensBehind _ _) (fun place member => ?_) opens ?_ rest solid
  · exact Nat.le_of_eq (mem_opensBehind.mp member).1
  · rw [map_kindAt_opensBehind first]

end Spine

end Exposure
