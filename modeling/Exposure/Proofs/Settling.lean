import Exposure.Proofs.Growth
import Exposure.Proofs.Writing

/-!
What is written of a settled type: the words of its head and then those of its suffixes, whichever chains they belong to.
-/

namespace Exposure

/-! Plain types -/

mutual

/-- Every array length and every constant argument is one identifier or one number, and no bound stands in parentheses. -/
def TypeExpr.IsPlain : TypeExpr → Prop
  | .path segments => PathSegment.AllPlain segments
  | .reference _ _ target => target.IsPlain
  | .pointer _ target => target.IsPlain
  | .tuple elements => TypeExpr.AllPlain elements
  | .slice element => element.IsPlain
  | .array element length => element.IsPlain ∧ IsConstant length
  | .bounded _ bounds => TypeExpr.AllPlain bounds
  | .never => True
  | .lifetime _ => True
  | .binding _ value => value.IsPlain
  | .const text => IsConstant text
  | .maybe bound => bound.IsPlain
  | .grouped _ => False

/-- Every type of a list is plain. -/
def TypeExpr.AllPlain : List TypeExpr → Prop
  | [] => True
  | first :: rest => first.IsPlain ∧ TypeExpr.AllPlain rest

/-- The types in a path segment are plain. -/
def PathSegment.IsPlain : PathSegment → Prop
  | .plain _ arguments => TypeExpr.AllPlain arguments
  | .call _ inputs output => TypeExpr.AllPlain inputs ∧ PathSegment.OutputPlain output

/-- The output of a call is plain if there is one. -/
def PathSegment.OutputPlain : Option TypeExpr → Prop
  | none => True
  | some output => output.IsPlain

/-- The types in some path segments are plain. -/
def PathSegment.AllPlain : List PathSegment → Prop
  | [] => True
  | first :: rest => first.IsPlain ∧ PathSegment.AllPlain rest

end

mutual

/-- Whether a type is plain. -/
def TypeExpr.decideIsPlain : (type : TypeExpr) → Decidable type.IsPlain
  | .path segments => PathSegment.decideAllPlain segments
  | .reference _ _ target => target.decideIsPlain
  | .pointer _ target => target.decideIsPlain
  | .tuple elements => TypeExpr.decideAllPlain elements
  | .slice element => element.decideIsPlain
  | .array element length => @instDecidableAnd _ (IsConstant length) element.decideIsPlain inferInstance
  | .bounded _ bounds => TypeExpr.decideAllPlain bounds
  | .never => inferInstanceAs (Decidable True)
  | .lifetime _ => inferInstanceAs (Decidable True)
  | .binding _ value => value.decideIsPlain
  | .const text => inferInstanceAs (Decidable (IsConstant text))
  | .maybe bound => bound.decideIsPlain
  | .grouped _ => inferInstanceAs (Decidable False)

/-- Whether every type of a list is plain. -/
def TypeExpr.decideAllPlain : (types : List TypeExpr) → Decidable (TypeExpr.AllPlain types)
  | [] => inferInstanceAs (Decidable True)
  | first :: rest => @instDecidableAnd _ _ first.decideIsPlain (TypeExpr.decideAllPlain rest)

/-- Whether the types in a path segment are plain. -/
def PathSegment.decideIsPlain : (segment : PathSegment) → Decidable segment.IsPlain
  | .plain _ arguments => TypeExpr.decideAllPlain arguments
  | .call _ inputs output => @instDecidableAnd _ _ (TypeExpr.decideAllPlain inputs) (PathSegment.decideOutputPlain output)

/-- Whether the output of a call is plain if there is one. -/
def PathSegment.decideOutputPlain : (output : Option TypeExpr) → Decidable (PathSegment.OutputPlain output)
  | none => inferInstanceAs (Decidable True)
  | some output => output.decideIsPlain

/-- Whether the types in some path segments are plain. -/
def PathSegment.decideAllPlain : (segments : List PathSegment) → Decidable (PathSegment.AllPlain segments)
  | [] => inferInstanceAs (Decidable True)
  | first :: rest => @instDecidableAnd _ _ first.decideIsPlain (PathSegment.decideAllPlain rest)

end

instance (type : TypeExpr) : Decidable type.IsPlain := type.decideIsPlain

theorem TypeExpr.allPlain_iff {types : List TypeExpr} : TypeExpr.AllPlain types ↔ ∀ type ∈ types, type.IsPlain := by
  induction types with
  | nil => exact ⟨fun _ => nofun, fun _ => trivial⟩
  | cons first rest step => rw [TypeExpr.AllPlain, step, List.forall_mem_cons]

theorem PathSegment.allPlain_iff {segments : List PathSegment} :
    PathSegment.AllPlain segments ↔ ∀ segment ∈ segments, segment.IsPlain := by
  induction segments with
  | nil => exact ⟨fun _ => nofun, fun _ => trivial⟩
  | cons first rest step => rw [PathSegment.AllPlain, step, List.forall_mem_cons]

theorem TypeExpr.wordsOfAll_eq (types : List TypeExpr) : TypeExpr.wordsOfAll types = types.map TypeExpr.words := by
  induction types with
  | nil => rfl
  | cons first rest step => rw [TypeExpr.wordsOfAll, step, List.map_cons]

theorem PathSegment.wordsOfAll_eq (segments : List PathSegment) :
    PathSegment.wordsOfAll segments = segments.map PathSegment.words := by
  induction segments with
  | nil => rfl
  | cons first rest step => rw [PathSegment.wordsOfAll, step, List.map_cons]

namespace Word

theorem joined_append (separator : Punctuation) {front : List (List Word)} (proper : front ≠ []) (behind : List (List Word)) :
    joined separator (front ++ behind) = joined separator front ++ behind.flatMap (mark separator :: ·) := by
  obtain ⟨first, rest, rfl⟩ := List.exists_cons_of_ne_nil proper
  rw [List.cons_append, joined, joined, List.flatMap_append, List.append_assoc]

/-- What goes behind the last of some lists goes behind all of them. -/
theorem joined_append_last (separator : Punctuation) (front : List (List Word)) (last behind : List Word) :
    joined separator (front ++ [last ++ behind]) = joined separator (front ++ [last]) ++ behind := by
  cases front with
  | nil => simp [joined]
  | cons first rest => simp [joined]

end Word

open Word

namespace Suffix

/-- The words of a suffix with the mark in front of it. -/
def words : Suffix → List Word
  | segment added => .mark .pathSeparator :: added.words
  | bound added => .mark .plus :: added.words

/-- What goes on a type is plain. -/
def IsPlain : Suffix → Prop
  | segment added => added.IsPlain
  | bound added => added.IsPlain

end Suffix

namespace TypeExpr

theorem words_path (segments : List PathSegment) :
    (path segments).words = joined .pathSeparator (segments.map PathSegment.words) := by
  rw [words, PathSegment.wordsOfAll_eq]

theorem words_bounded (kind : BoundedKind) (bounds : List TypeExpr) :
    (bounded kind bounds).words = reserved kind.keyword :: joined .plus (bounds.map words) := by
  rw [words, wordsOfAll_eq]

theorem isPlain_path (segments : List PathSegment) :
    (path segments).IsPlain ↔ ∀ segment ∈ segments, segment.IsPlain := PathSegment.allPlain_iff

theorem isPlain_bounded (kind : BoundedKind) (bounds : List TypeExpr) :
    (bounded kind bounds).IsPlain ↔ ∀ bound ∈ bounds, bound.IsPlain := allPlain_iff

/-- A type that has grown is written with the suffix behind it. -/
theorem Grown.words {suffix : Suffix} {type type' : TypeExpr} (grown : Grown suffix type type') :
    type'.words = type.words ++ suffix.words := by
  induction grown with
  | segment front last added =>
    rw [words_path, words_path, List.append_cons, List.map_append, joined_append _ (by simp)]
    simp [Suffix.words]
  | bound kind front last added =>
    rw [words_bounded, words_bounded, List.append_cons, List.map_append, joined_append _ (by simp)]
    simp [Suffix.words]
  | output front name inputs _ step =>
    rw [words_path, words_path, List.map_append, List.map_append, List.map_singleton, List.map_singleton, ← joined_append_last]
    simp [PathSegment.words, PathSegment.wordsOfOutput, step]
  | inner kind front _ step =>
    rw [words_bounded, words_bounded, List.map_append, List.map_append, List.map_singleton, List.map_singleton, step,
      joined_append_last, List.cons_append]
  | reference life mutable _ step => cases life <;> simp [TypeExpr.words, step]
  | pointer mutable _ step => simp [TypeExpr.words, step]
  | maybe _ step => simp [TypeExpr.words, step]

/-- A type that has grown is plain if the type and the suffix are. -/
theorem Grown.isPlain {suffix : Suffix} {type type' : TypeExpr} (grown : Grown suffix type type') :
    type'.IsPlain ↔ type.IsPlain ∧ suffix.IsPlain := by
  induction grown with
  | segment front last added =>
    rw [isPlain_path, isPlain_path, List.append_cons, List.forall_mem_append, List.forall_mem_singleton]
    rfl
  | bound kind front last added =>
    rw [isPlain_bounded, isPlain_bounded, List.append_cons, List.forall_mem_append, List.forall_mem_singleton]
    rfl
  | output front name inputs _ step =>
    rw [isPlain_path, isPlain_path, List.forall_mem_append, List.forall_mem_append, List.forall_mem_singleton,
      List.forall_mem_singleton, PathSegment.IsPlain, PathSegment.IsPlain, PathSegment.OutputPlain,
      PathSegment.OutputPlain, step]
    tauto
  | inner kind front _ step =>
    rw [isPlain_bounded, isPlain_bounded, List.forall_mem_append, List.forall_mem_append, List.forall_mem_singleton,
      List.forall_mem_singleton, step]
    tauto
  | reference life mutable _ step => exact step
  | pointer mutable _ step => exact step
  | maybe _ step => exact step

theorem Grows.words {suffixes : List Suffix} {type type' : TypeExpr} (grows : Grows type suffixes type') :
    type'.words = type.words ++ suffixes.flatMap Suffix.words := by
  induction grows with
  | nil => rw [List.flatMap_nil, List.append_nil]
  | cons first _ step => rw [step, first.words, List.append_assoc, List.flatMap_cons]

theorem Grows.isPlain {suffixes : List Suffix} {type type' : TypeExpr} (grows : Grows type suffixes type') :
    type'.IsPlain ↔ type.IsPlain ∧ ∀ suffix ∈ suffixes, suffix.IsPlain := by
  induction grows with
  | nil => simp
  | cons first _ step => rw [step, first.isPlain, List.forall_mem_cons, and_assoc]

end TypeExpr

namespace Spine

open Chain (Attaches)

/-- Suffixes go on chains of their kinds, one behind another. -/
structure Fits (opened : List ChainKind) (suffixes : List Suffix) : Prop where
  solid : ∀ suffix ∈ suffixes, suffix.IsSolid
  attaches : ∃ last, Attaches opened (suffixes.map Suffix.stretch) last

namespace Fits

theorem nil (opened : List ChainKind) : Fits opened [] := ⟨nofun, opened, .nil opened⟩

/-- Behind what goes on the chains inside a chain, the chain itself may go on. -/
theorem append {kind : ChainKind} {opened : List ChainKind} {one two : List Suffix} (ofOne : Fits opened one)
    (ofTwo : ∀ inner, Fits (kind :: inner) two) : Fits (kind :: opened) (one ++ two) := by
  obtain ⟨last, inside⟩ := ofOne.attaches
  obtain ⟨last', behind⟩ := (ofTwo last).attaches
  refine ⟨List.forall_mem_append.mpr ⟨ofOne.solid, (ofTwo last).solid⟩, last', ?_⟩
  rw [List.map_append]
  exact (inside.within [kind]).append behind

theorem cons {kind : ChainKind} {inner : List ChainKind} {suffix : Suffix} {others : List Suffix} (solid : suffix.IsSolid)
    (joins : suffix.stretch.joint = some kind) (fits : Fits (kind :: suffix.stretch.opened) others) :
    Fits (kind :: inner) (suffix :: others) := by
  obtain ⟨last, behind⟩ := fits.attaches
  have attaches : Attaches ([] ++ kind :: inner) (suffix.stretch :: others.map Suffix.stretch) last := .cons joins behind
  exact ⟨List.forall_mem_cons.mpr ⟨solid, fits.solid⟩, last, attaches⟩

end Fits

/-- A type, whose suffixes go on the chains that it opens. -/
structure IsSound (spine : Spine TypeExpr) : Prop where
  opens : spine.head.Opens spine.head.openChains
  fits : Fits spine.head.openChains spine.suffixes

namespace IsSound

variable {spine : Spine TypeExpr}

theorem single {type : TypeExpr} (isClosed : type.isClosed = true) : (single type).IsSound := by
  have opens := TypeExpr.Opens.closed isClosed
  have none : type.openChains = [] := opens.openChains
  exact ⟨none.symm ▸ opens, .nil _⟩

theorem grows (sound : spine.IsSound) : spine.head.Grows spine.suffixes spine.settle := by
  obtain ⟨last, attaches⟩ := sound.fits.attaches
  exact settle_grows sound.opens sound.fits.solid attaches

theorem words_settle (sound : spine.IsSound) :
    spine.settle.words = spine.head.words ++ spine.suffixes.flatMap Suffix.words := sound.grows.words

theorem isPlain_settle (sound : spine.IsSound) :
    spine.settle.IsPlain ↔ spine.head.IsPlain ∧ ∀ suffix ∈ spine.suffixes, suffix.IsPlain := sound.grows.isPlain

end IsSound

/-- A path segment, whose suffixes go on the chains that are open at its end. -/
structure IsSoundSegment (spine : Spine PathSegment) : Prop where
  solid : spine.head.IsSolid
  fits : Fits (TypeExpr.openInSegment spine.head) spine.suffixes

end Spine

namespace Writes

open Spine (IsSound IsSoundSegment Fits)

/-- What is sound of each part of a type. -/
def Sound : (part : Part) → part.Meaning → Prop
  | .type, spine => IsSound spine
  | .path, spine => IsSound spine
  | .bound, spine => IsSound spine
  | .segment, spine => IsSoundSegment spine
  | .links kind, suffixes => ∀ inner, Fits (kind :: inner) suffixes
  | _, _ => True

/-- The suffixes of every part that is written fit onto the chains in front of them. -/
theorem sound {part : Part} {words : List Word} {found : part.Meaning} (writes : Writes part words found) :
    Sound part found := by
  induction writes with
  | path _ step => exact step
  | reference life mutable _ step => exact ⟨.reference life mutable step.opens, step.fits⟩
  | pointer mutable _ step => exact ⟨.pointer mutable step.opens, step.fits⟩
  | tuple => exact .single rfl
  | slice => exact .single rfl
  | array => exact .single rfl
  | bounded kind _ _ ofFirst ofRest => exact ⟨.bound kind [] ofFirst.opens, ofFirst.fits.append ofRest⟩
  | never => exact .single rfl
  | segments rooted _ _ ofFirst ofRest => exact ⟨.path [] ofFirst.solid, ofFirst.fits.append ofRest⟩
  | plain name => exact ⟨trivial, .nil _⟩
  | generic name separated => exact ⟨trivial, .nil _⟩
  | call name => exact ⟨trivial, .nil _⟩
  | output name _ _ _ ofOutput => exact ⟨ofOutput.opens, ofOutput.fits⟩
  | pathBound _ step => exact step
  | lifetimeBound name => exact .single rfl
  | maybe _ step => exact ⟨.maybe step.opens, step.fits⟩
  | grouped => exact .single rfl
  | noLinks kind => exact fun inner => .nil _
  | moreSegments _ _ ofFirst ofRest => exact fun inner => .cons ofFirst.solid rfl (ofFirst.fits.append ofRest)
  | moreBounds _ _ ofFirst ofRest => exact fun inner => .cons ofFirst.opens rfl (ofFirst.fits.append ofRest)
  | _ => trivial

end Writes

end Exposure
