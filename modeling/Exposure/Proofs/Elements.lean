import Exposure.Proofs.ElementOrder
import Exposure.Proofs.Outcome
import Exposure.Signature
import Mathlib.Data.List.Nodup

/-!
# Reading the elements of an override

`Signature.Progress.Reads` lists what reading one element does, with what it asks of the elements before it; every other fact
about reading is a case analysis on it. Two things are read off the state: how far the kinds of the elements have come, which
is `Progress.phase`, and that the names have come in the order in which they are declared, which is `Progress.Ordered`.
-/

namespace Exposure.Signature

/-- The place of a parameter name among those declared. -/
def placeIn (declared : List Parameter) (name : String) : Nat := (declared.map (·.name)).idxOf name

namespace Progress

variable {declared : List Parameter} {progress : Progress} {entry : SignatureEntry} {name : String} {index : Nat}
  {parameter : Parameter}

/-! Checks -/

theorem checkOpen_eq_ok {done : Unit} : progress.checkOpen entry = .ok done ↔ progress.afterKeywords = false := by
  cases closed : progress.afterKeywords <;> simp [checkOpen, closed, report]

theorem checkNoStar_eq_ok {done : Unit} : progress.checkNoStar entry = .ok done ↔ progress.star = none := by
  cases found : progress.star <;> simp [checkNoStar, found, report]

/-! Names -/

theorem find?_zipIdx (declared : List Parameter) (name : String) (offset : Nat) :
    (declared.zipIdx offset).find? (fun found => found.1.name = name) =
      (declared[placeIn declared name]?).map fun found => (found, offset + placeIn declared name) := by
  induction declared generalizing offset with
  | nil => rfl
  | cons first rest step =>
    by_cases named : first.name = name
    · have place : placeIn (first :: rest) name = 0 := by simp [placeIn, named]
      simp [named, place]
    · have place : placeIn (first :: rest) name = placeIn rest name + 1 := by
        simp [placeIn, List.idxOf_cons_ne _ named]
      rw [List.zipIdx_cons, List.find?_cons_of_neg (by simpa using named), step, place, List.getElem?_cons_succ]
      simp only [Nat.add_assoc, Nat.add_comm 1]

/-- A parameter is located if its name is new, and if it is declared at or behind the place of the last one. -/
theorem locate_eq_ok_iff :
    progress.locate declared entry name = .ok (index, parameter) ↔
      name ∉ progress.seen ∧ index = placeIn declared name ∧ declared[index]? = some parameter ∧
        progress.last ≤ index := by
  rw [locate, find?_zipIdx]
  by_cases seen : name ∈ progress.seen
  · simp [seen, report]
  · rw [if_neg (by simpa using seen)]
    cases found : declared[placeIn declared name]? with
    | none =>
      simp only [Option.map_none, report, Outcome.report_ne_ok, false_iff]
      rintro ⟨-, rfl, known, -⟩
      exact Option.some_ne_none _ (known.symm.trans found)
    | some other =>
      by_cases early : placeIn declared name < progress.last
      · simp only [Option.map_some, Nat.zero_add, if_pos early, report, Outcome.report_ne_ok, false_iff]
        rintro ⟨-, rfl, -, late⟩
        exact absurd early (Nat.not_lt.mpr late)
      · simp only [Option.map_some, Nat.zero_add, if_neg early, Except.ok.injEq, Prod.mk.injEq]
        constructor
        · rintro ⟨rfl, rfl⟩
          exact ⟨seen, rfl, found, Nat.not_lt.mp early⟩
        · rintro ⟨-, rfl, known, -⟩
          exact ⟨rfl, Option.some.inj (found.symm.trans known)⟩

/-- A located parameter is a declared one of the name asked for, which is new. -/
theorem locate_eq_ok (located : progress.locate declared entry name = .ok (index, parameter)) :
    parameter.name = name ∧ name ∉ progress.seen ∧ parameter ∈ declared := by
  obtain ⟨fresh, rfl, found, -⟩ := locate_eq_ok_iff.mp located
  obtain ⟨inside, rfl⟩ := List.getElem?_eq_some_iff.mp found
  have named : (declared.map (·.name))[placeIn declared name]? = some name := by
    apply List.getElem?_idxOf
    apply List.idxOf_lt_length_iff.mp
    simpa [placeIn] using inside
  rw [List.getElem?_map, found, Option.map_some, Option.some.injEq] at named
  exact ⟨named, fresh, List.getElem_mem inside⟩

/-- Names that have been read, the latest first, are declared, each behind those before it. -/
structure Ordered (declared : List Parameter) (seen : List String) (last : Nat) : Prop where
  known : ∀ name ∈ seen, name ∈ declared.map (·.name)
  increasing : seen.Pairwise fun later earlier => placeIn declared earlier < placeIn declared later
  latest : last = (seen.head?.map (placeIn declared)).getD 0

namespace Ordered

variable {seen : List String} {last : Nat}

theorem nil : Ordered declared [] 0 := ⟨List.forall_mem_nil _, .nil, rfl⟩

theorem place_le_last (ordered : Ordered declared seen last) : ∀ name ∈ seen, placeIn declared name ≤ last := by
  intro name member
  cases seen with
  | nil => cases member
  | cons latest earlier =>
    have same : last = placeIn declared latest := ordered.latest
    rcases List.mem_cons.mp member with rfl | before
    · exact Nat.le_of_eq same.symm
    · exact same ▸ Nat.le_of_lt ((List.pairwise_cons.mp ordered.increasing).1 name before)

/-- A located parameter stands behind all that have been read. -/
theorem noting (ordered : Ordered declared progress.seen progress.last)
    (located : progress.locate declared entry name = .ok (index, parameter)) :
    Ordered declared (name :: progress.seen) index := by
  obtain ⟨named, -, listed⟩ := locate_eq_ok located
  obtain ⟨fresh, rfl, -, late⟩ := locate_eq_ok_iff.mp located
  have known : name ∈ declared.map (·.name) := List.mem_map.mpr ⟨parameter, listed, named⟩
  have behind : ∀ earlier ∈ progress.seen, placeIn declared earlier < placeIn declared name := by
    intro earlier member
    apply Nat.lt_of_le_of_ne (Nat.le_trans (ordered.place_le_last earlier member) late)
    intro same
    exact fresh ((List.idxOf_inj (ordered.known earlier member)).mp same ▸ member)
  exact ⟨List.forall_mem_cons.mpr ⟨known, ordered.known⟩, List.pairwise_cons.mpr ⟨behind, ordered.increasing⟩, rfl⟩

/-- When every declared parameter has been read, their names have been read in order. -/
theorem reverse_eq (ordered : Ordered declared seen last) (distinct : (declared.map (·.name)).Nodup)
    (complete : ∀ parameter ∈ declared, parameter.name ∈ seen) : seen.reverse = declared.map (·.name) := by
  -- Both lists rise by place, and they have the same members.
  let before (one other : String) : Prop := placeIn declared one < placeIn declared other
  have ofSeen : seen.reverse.Pairwise before := List.pairwise_reverse.mpr ordered.increasing
  have ofDeclared : (declared.map (·.name)).Pairwise before := by
    apply List.pairwise_iff_getElem.mpr
    intro i j inside inside' less
    simpa only [before, placeIn, distinct.idxOf_getElem] using less
  have fresh : seen.reverse.Nodup := ofSeen.imp fun less same => by simp [before, same] at less
  have same : seen.reverse.Perm (declared.map (·.name)) := by
    apply (List.perm_ext_iff_of_nodup fresh distinct).mpr
    intro name
    rw [List.mem_reverse]
    constructor
    · exact ordered.known name
    · intro member
      obtain ⟨parameter, listed, rfl⟩ := List.mem_map.mp member
      exact complete parameter listed
  exact same.eq_of_pairwise (fun one other _ _ less more => absurd less (Nat.lt_asymm more)) ofSeen ofDeclared

end Ordered

/-! Kinds -/

/-- How far the elements that have been read have come. -/
def phase (progress : Progress) : Phase :=
  if progress.afterKeywords then .closed
  else
    match progress.star with
    | none =>
      if progress.afterSlash then .behindSlash
      else if progress.described.isEmpty then .opening
      else .positional
    | some entry =>
      if entry.name?.isNone && !progress.described.any (·.passing = .keywordOnly) then .behindBareStar
      else .behindStar

theorem phase_of_closed (closed : progress.afterKeywords = true) : progress.phase = .closed := if_pos closed

theorem phase_of_noStar (isOpen : progress.afterKeywords = false) (noStar : progress.star = none) :
    progress.phase =
      if progress.afterSlash then .behindSlash else if progress.described.isEmpty then .opening else .positional := by
  simp [phase, isOpen, noStar]

theorem phase_of_star {star : SignatureEntry} (isOpen : progress.afterKeywords = false)
    (starred : progress.star = some star) :
    progress.phase =
      if star.name?.isNone && !progress.described.any (·.passing = .keywordOnly) then .behindBareStar
      else .behindStar := by
  simp [phase, isOpen, starred]

theorem checkBareStar_eq_ok_iff (isOpen : progress.afterKeywords = false) {done : Unit} :
    progress.checkBareStar = .ok done ↔ progress.phase ≠ .behindBareStar := by
  cases starred : progress.star with
  | none =>
    rw [phase_of_noStar isOpen starred]
    simp only [checkBareStar, bareStar?, starred, Option.filter_none, true_iff]
    split_ifs <;> exact nofun
  | some star =>
    rw [phase_of_star isOpen starred]
    cases bare : star.name?.isNone <;> cases answered : progress.described.any (·.passing = .keywordOnly) <;>
      simp [checkBareStar, bareStar?, starred, Option.filter_some, bare, answered, report]

/-- What reading an element asks of those before it, whatever it names. -/
def Admits (progress : Progress) : EntryForm → Prop
  | .positionalMarker =>
    progress.afterKeywords = false ∧ progress.star = none ∧ progress.afterSlash = false ∧ progress.described ≠ []
  | .keywordMarker => progress.afterKeywords = false ∧ progress.star = none
  | .variadicPositional _ => progress.afterKeywords = false ∧ progress.star = none
  | .variadicKeyword _ => progress.afterKeywords = false ∧ progress.checkBareStar = .ok ()
  | .named .. => progress.afterKeywords = false

theorem admits_iff {form : EntryForm} :
    progress.Admits form ↔ ∃ reached, progress.phase.next form.kind = some reached := by
  cases closed : progress.afterKeywords with
  | true =>
    rw [phase_of_closed closed]
    cases form <;> simp [Admits, closed, Phase.next]
  | false =>
    have answered : progress.checkBareStar = .ok () ↔ progress.phase ≠ .behindBareStar :=
      checkBareStar_eq_ok_iff closed
    -- The phase is computed from the markers; in each phase the forms are tried one by one.
    cases starred : progress.star with
    | none =>
      have reached := phase_of_noStar closed starred
      cases slashed : progress.afterSlash <;> cases proper : progress.described <;>
        simp only [slashed, proper, List.isEmpty_nil, List.isEmpty_cons, Bool.false_eq_true, if_true, if_false]
          at reached <;>
        cases form <;> simp [Admits, closed, starred, slashed, proper, answered, reached, EntryForm.kind, Phase.next]
    | some star =>
      have reached := phase_of_star closed starred
      split at reached <;> cases form <;>
        simp [Admits, closed, starred, answered, reached, EntryForm.kind, Phase.next]

/-! Steps -/

/-- What one more element makes of those that have been read. -/
inductive Reads (declared : List Parameter) (options : Options) (owner : Option String) (before : Progress)
    (entry : SignatureEntry) : Progress → Prop
  | slash (form : entry.form = .positionalMarker) (admits : before.Admits .positionalMarker) :
      Reads declared options owner before entry
        { before with
          described := before.described.map fun descriptor => { descriptor with passing := .positionalOnly }
          afterSlash := true }
  | star (form : entry.form = .keywordMarker) (admits : before.Admits .keywordMarker) :
      Reads declared options owner before entry { before with star := some entry }
  | variadicPositional {name : String} {index : Nat} {parameter : Parameter}
      (form : entry.form = .variadicPositional name)
      (located : before.locate declared entry name = .ok (index, parameter))
      (admits : before.Admits (.variadicPositional name)) :
      Reads declared options owner before entry
        { (before.noting name index).adding (describe owner parameter .variadicPositional none) with star := some entry }
  | variadicKeyword {name : String} {index : Nat} {parameter : Parameter} (form : entry.form = .variadicKeyword name)
      (located : before.locate declared entry name = .ok (index, parameter))
      (admits : before.Admits (.variadicKeyword name)) :
      Reads declared options owner before entry
        { (before.noting name index).adding (describe owner parameter .variadicKeyword none) with afterKeywords := true }
  | named {name : String} {expression : Option (List TokenTree)} {index : Nat} {parameter : Parameter}
      (form : entry.form = .named name expression)
      (located : before.locate declared entry name = .ok (index, parameter))
      (admits : before.Admits (.named name expression)) :
      Reads declared options owner before entry
        ((before.noting name index).adding
          (describe owner parameter (if before.star.isSome then .keywordOnly else .positionalOrKeyword)
            (defaultOf options name expression)))

variable {options : Options} {owner : Option String} {before after : Progress}

theorem read_eq_ok_iff :
    before.read declared options owner entry = .ok after ↔ Reads declared options owner before entry after := by
  constructor
  · intro step
    cases form : entry.form with
    | positionalMarker =>
      simp only [read, form, Outcome.bind_eq_ok, checkOpen_eq_ok] at step
      obtain ⟨-, isOpen, step⟩ := step
      split at step
      · exact absurd step Outcome.report_ne_ok
      · rename_i noStar
        split at step
        · exact absurd step Outcome.report_ne_ok
        · rename_i proper
          simp only [Bool.or_eq_true, List.isEmpty_iff, not_or, Bool.not_eq_true] at proper
          rw [← Outcome.pure_eq_ok.mp step]
          exact .slash form ⟨isOpen, Option.not_isSome_iff_eq_none.mp noStar, proper⟩
    | keywordMarker =>
      simp only [read, form, Outcome.bind_eq_ok, checkOpen_eq_ok, checkNoStar_eq_ok, Outcome.pure_eq_ok] at step
      obtain ⟨-, isOpen, -, noStar, rfl⟩ := step
      exact .star form ⟨isOpen, noStar⟩
    | variadicPositional name =>
      simp only [read, form, Outcome.bind_eq_ok, checkOpen_eq_ok, checkNoStar_eq_ok, Outcome.pure_eq_ok] at step
      obtain ⟨⟨index, parameter⟩, located, -, isOpen, -, noStar, rfl⟩ := step
      exact .variadicPositional form located ⟨isOpen, noStar⟩
    | variadicKeyword name =>
      simp only [read, form, Outcome.bind_eq_ok, checkOpen_eq_ok, Outcome.pure_eq_ok] at step
      obtain ⟨⟨index, parameter⟩, located, -, isOpen, ⟨⟩, answered, rfl⟩ := step
      exact .variadicKeyword form located ⟨isOpen, answered⟩
    | named name expression =>
      simp only [read, form, Outcome.bind_eq_ok, checkOpen_eq_ok, Outcome.pure_eq_ok] at step
      obtain ⟨⟨index, parameter⟩, located, -, isOpen, rfl⟩ := step
      exact .named form located isOpen
  · intro reads
    cases reads with
    | slash form admits =>
      obtain ⟨isOpen, noStar, first, proper⟩ := admits
      simp [read, form, checkOpen, isOpen, noStar, first, proper, List.isEmpty_iff]
    | star form admits =>
      obtain ⟨isOpen, noStar⟩ := admits
      simp [read, form, checkOpen, checkNoStar, isOpen, noStar]
    | variadicPositional form located admits =>
      obtain ⟨isOpen, noStar⟩ := admits
      simp [read, form, located, checkOpen, checkNoStar, isOpen, noStar]
    | variadicKeyword form located admits =>
      obtain ⟨isOpen, answered⟩ := admits
      simp [read, form, located, checkOpen, isOpen, answered]
    | named form located admits =>
      have isOpen : before.afterKeywords = false := admits
      simp [read, form, located, checkOpen, isOpen]

/-- An element can be read where it may stand, if the parameter that it names can be located. -/
theorem exists_read (goes : ∃ reached, before.phase.next entry.kind = some reached)
    (located : ∀ name, entry.name? = some name → ∃ found, before.locate declared entry name = .ok found) :
    ∃ after, before.read declared options owner entry = .ok after := by
  simp only [read_eq_ok_iff]
  have admits := admits_iff.mpr goes
  rw [SignatureEntry.name?] at located
  cases form : entry.form with
  | positionalMarker => exact ⟨_, .slash form (form ▸ admits)⟩
  | keywordMarker => exact ⟨_, .star form (form ▸ admits)⟩
  | variadicPositional name =>
    obtain ⟨⟨index, parameter⟩, found⟩ := located name (by rw [form])
    exact ⟨_, .variadicPositional form found (form ▸ admits)⟩
  | variadicKeyword name =>
    obtain ⟨⟨index, parameter⟩, found⟩ := located name (by rw [form])
    exact ⟨_, .variadicKeyword form found (form ▸ admits)⟩
  | named name expression =>
    obtain ⟨⟨index, parameter⟩, found⟩ := located name (by rw [form])
    exact ⟨_, .named form found (form ▸ admits)⟩

/-- As long as neither a star nor any keywords have been read, every parameter is passed by position. -/
def OpensPositional (progress : Progress) : Prop :=
  progress.afterKeywords = false → progress.star = none →
    ∀ descriptor ∈ progress.described, descriptor.passing.isPositional = true

theorem OpensPositional.noKeyword (opens : progress.OpensPositional) (isOpen : progress.afterKeywords = false)
    (noStar : progress.star = none) : ∀ descriptor ∈ progress.described, descriptor.passing ≠ .keywordOnly := by
  intro descriptor member same
  simpa [same, PassingKind.isPositional] using opens isOpen noStar descriptor member

namespace Reads

/-- Reading an element goes to the next phase. -/
theorem next (opens : before.OpensPositional) (reads : Reads declared options owner before entry after) :
    before.phase.next entry.kind = some after.phase := by
  rw [SignatureEntry.kind]
  cases reads with
  | slash form admits =>
    obtain ⟨isOpen, noStar, first, proper⟩ := admits
    simp [phase, form, isOpen, noStar, first, proper, EntryForm.kind, Phase.next]
  | star form admits =>
    obtain ⟨isOpen, noStar⟩ := admits
    have unnamed : entry.name? = none := by rw [SignatureEntry.name?, form]
    -- No parameter before the star can stand for the one that a bare star needs behind it.
    have reached : phase { before with star := some entry } = .behindBareStar := by
      simpa [phase, isOpen, unnamed] using opens.noKeyword isOpen noStar
    rw [reached, phase_of_noStar isOpen noStar, form]
    cases before.afterSlash <;> cases before.described.isEmpty <;> rfl
  | variadicPositional form located admits =>
    obtain ⟨isOpen, noStar⟩ := admits
    have named : entry.name?.isNone = false := by rw [SignatureEntry.name?, form]; rfl
    simp only [phase, adding, noting, isOpen, noStar, named, form]
    cases before.afterSlash <;> cases before.described.isEmpty <;> rfl
  | variadicKeyword form located admits =>
    obtain ⟨reached, goes⟩ := admits_iff.mp admits
    have closes : reached = .closed := by
      cases phase : before.phase <;> simp_all [EntryForm.kind, Phase.next]
    rw [form, goes, closes]
    rfl
  | named form located admits =>
    have isOpen : before.afterKeywords = false := admits
    rw [form]
    cases starred : before.star with
    | none =>
      simp only [phase, adding, noting, isOpen, starred]
      cases before.afterSlash <;> cases before.described.isEmpty <;> simp [EntryForm.kind, Phase.next]
    | some star =>
      simp only [phase, adding, noting, isOpen, starred, List.any_append]
      cases star.name?.isNone <;> cases before.described.any (·.passing = .keywordOnly) <;>
        simp [describe, EntryForm.kind, Phase.next]

theorem ordered (ordered : Ordered declared before.seen before.last)
    (reads : Reads declared options owner before entry after) : Ordered declared after.seen after.last := by
  cases reads with
  | slash form admits => exact ordered
  | star form admits => exact ordered
  | variadicPositional form located admits => exact ordered.noting located
  | variadicKeyword form located admits => exact ordered.noting located
  | named form located admits => exact ordered.noting located

theorem star_eq (reads : Reads declared options owner before entry after) :
    after.star = before.star.or (if entry.isStar then some entry else none) := by
  rw [SignatureEntry.isStar, SignatureEntry.kind]
  cases reads with
  | slash form admits => simp [form, EntryForm.kind]
  | star form admits => simp [form, EntryForm.kind, admits.2]
  | variadicPositional form located admits => simp [form, EntryForm.kind, admits.2]
  | variadicKeyword form located admits => simp [form, EntryForm.kind, adding, noting]
  | named form located admits => simp [form, EntryForm.kind, adding, noting]

theorem seen_eq (reads : Reads declared options owner before entry after) :
    after.seen = entry.name?.toList ++ before.seen := by
  rw [SignatureEntry.name?]
  cases reads with
  | slash form admits => simp [form]
  | star form admits => simp [form]
  | variadicPositional form located admits => simp [form, adding, noting]
  | variadicKeyword form located admits => simp [form, adding, noting]
  | named form located admits => simp [form, adding, noting]

end Reads

end Progress

end Exposure.Signature
