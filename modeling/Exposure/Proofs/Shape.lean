import Exposure.Syntax.TypeExpr.Signature
import Exposure.Syntax.TypeExpr.Spine
import Exposure.Token.Lexeme

/-!
The shape that every type of the declaration language has: names are made of name characters, and a lifetime stands only
where type arguments and bounds may stand.
-/

namespace Exposure

/-- The characters of identifiers, with the raw mark. -/
def Lexeme.isNameChar (char : Char) : Bool := continuesIdent char || char = '#'

/-- A text is made of name characters. -/
def IsName (text : String) : Prop := ∀ char ∈ text.toList, Lexeme.isNameChar char = true

mutual

/-- A type that is no lifetime has names of name characters, and so have the types in it. -/
def TypeExpr.IsProper : TypeExpr → Prop
  | .path segments => PathSegment.AllProper segments
  | .reference _ _ target => target.IsProper
  | .pointer _ target => target.IsProper
  | .tuple elements => TypeExpr.AllProper elements
  | .slice element => element.IsProper
  | .array element _ => element.IsProper
  | .bounded _ bounds => TypeExpr.AllProper bounds
  | .never => True
  | .lifetime _ => False
  | .binding name value => IsName name ∧ value.IsProper
  | .const _ => True
  | .maybe bound => bound.IsProper
  | .grouped bound => bound.IsProper

/-- Every member of a list is a lifetime or a proper type. -/
def TypeExpr.AllProper : List TypeExpr → Prop
  | [] => True
  | first :: rest => (first.isLifetime = true ∨ first.IsProper) ∧ TypeExpr.AllProper rest

/-- A path segment has a name of name characters and proper types in it. -/
def PathSegment.IsProper : PathSegment → Prop
  | .plain name arguments => IsName name ∧ TypeExpr.AllProper arguments
  | .call name inputs output => IsName name ∧ TypeExpr.AllProper inputs ∧ PathSegment.OutputProper output

/-- The output of a call is proper if there is one. -/
def PathSegment.OutputProper : Option TypeExpr → Prop
  | none => True
  | some output => output.IsProper

/-- Every segment of a list is proper. -/
def PathSegment.AllProper : List PathSegment → Prop
  | [] => True
  | first :: rest => first.IsProper ∧ PathSegment.AllProper rest

end

/-- A type is a lifetime or proper. -/
def TypeExpr.IsArgument (type : TypeExpr) : Prop := type.isLifetime = true ∨ type.IsProper

/-- A suffix adds a proper segment, or a bound that is a lifetime or proper. -/
def Suffix.IsProper : Suffix → Prop
  | segment added => added.IsProper
  | bound added => added.IsArgument

/-- A spine whose head has a property and whose suffixes are proper. -/
structure Spine.IsProper {head : Type} (ofHead : head → Prop) (spine : Spine head) : Prop where
  head : ofHead spine.head
  suffixes : ∀ suffix ∈ spine.suffixes, suffix.IsProper

namespace TypeExpr

theorem allProper_iff {types : List TypeExpr} : AllProper types ↔ ∀ type ∈ types, type.IsArgument := by
  induction types with
  | nil => simp [AllProper]
  | cons first rest step => simp [AllProper, step, IsArgument]

theorem allProper_singleton {type : TypeExpr} : AllProper [type] ↔ type.IsArgument := by
  simp [AllProper, IsArgument]

/-! Suffixes -/

variable {suffix : Suffix}

mutual

theorem extend_isProper (added : suffix.IsProper) :
    (depth : Nat) → (type : TypeExpr) → type.IsProper → (extend suffix depth type).IsProper
  | depth, path segments, proper => by
    rw [extend]
    exact extendSegments_allProper added depth segments proper
  | depth, reference _ _ target, proper => by
    rw [extend]
    exact extend_isProper added depth target proper
  | depth, pointer _ target, proper => by
    rw [extend]
    exact extend_isProper added depth target proper
  | depth, bounded _ bounds, proper => by
    rw [extend]
    exact extendBounds_allProper added depth bounds proper
  | depth, maybe bound, proper => by
    rw [extend]
    exact extend_isProper added depth bound proper
  | _, tuple _, proper => proper
  | _, slice _, proper => proper
  | _, array _ _, proper => proper
  | _, never, proper => proper
  | _, lifetime _, proper => proper
  | _, binding _ _, proper => proper
  | _, const _, proper => proper
  | _, grouped _, proper => proper

theorem extendBounds_allProper (added : suffix.IsProper) :
    (depth : Nat) → (bounds : List TypeExpr) → AllProper bounds → AllProper (extendBounds suffix depth bounds)
  | _, [], proper => proper
  | 0, [last], proper => by
    cases suffix with
    | segment _ =>
      simp only [extendBounds]
      exact proper
    | bound bound =>
      simp only [extendBounds]
      exact ⟨proper.1, added, trivial⟩
  | depth + 1, [last], proper => by
    rw [extendBounds]
    refine ⟨?_, trivial⟩
    rcases proper.1 with life | proper
    · cases last <;> exact .inl life
    · exact .inr (extend_isProper added depth last proper)
  | depth, first :: second :: rest, proper => by
    rw [extendBounds]
    · exact ⟨proper.1, extendBounds_allProper added depth (second :: rest) proper.2⟩
    all_goals nofun

theorem extendSegments_allProper (added : suffix.IsProper) :
    (depth : Nat) → (segments : List PathSegment) → PathSegment.AllProper segments →
      PathSegment.AllProper (extendSegments suffix depth segments)
  | _, [], proper => proper
  | 0, [last], proper => by
    cases suffix with
    | segment segment =>
      simp only [extendSegments]
      exact ⟨proper.1, added, trivial⟩
    | bound _ =>
      simp only [extendSegments]
      exact proper
  | depth + 1, [last], proper => by
    rw [extendSegments]
    exact ⟨extendSegment_isProper added depth last proper.1, trivial⟩
  | depth, first :: second :: rest, proper => by
    rw [extendSegments]
    · exact ⟨proper.1, extendSegments_allProper added depth (second :: rest) proper.2⟩
    all_goals nofun

theorem extendSegment_isProper (added : suffix.IsProper) :
    (depth : Nat) → (segment : PathSegment) → segment.IsProper → (extendSegment suffix depth segment).IsProper
  | depth, .call name inputs (some output), proper => by
    rw [extendSegment]
    exact ⟨proper.1, proper.2.1, extend_isProper added depth output proper.2.2⟩
  | _, .call _ _ none, proper => proper
  | _, .plain _ _, proper => proper

end

end TypeExpr

namespace Spine

variable {head result : Type} {ofHead : head → Prop} {ofResult : result → Prop}

theorem IsProper.single {part : head} (proper : ofHead part) : (single part).IsProper ofHead :=
  ⟨proper, nofun⟩

theorem IsProper.map {spine : Spine head} {within : head → result} (proper : spine.IsProper ofHead)
    (carried : ∀ part, ofHead part → ofResult (within part)) : (spine.map within).IsProper ofResult :=
  ⟨carried _ proper.head, proper.suffixes⟩

theorem IsProper.append {spine : Spine head} {others : List Suffix} (proper : spine.IsProper ofHead)
    (each : ∀ suffix ∈ others, suffix.IsProper) : (spine.append others).IsProper ofHead := by
  refine ⟨proper.head, fun suffix member => ?_⟩
  rcases List.mem_append.mp member with before | behind
  · exact proper.suffixes suffix before
  · exact each suffix behind

theorem IsProper.toSuffixes {spine : Spine head} (proper : spine.IsProper ofHead) (suffix : head → Suffix)
    (carried : ∀ part, ofHead part → (suffix part).IsProper) : ∀ each ∈ spine.toSuffixes suffix, each.IsProper :=
  List.forall_mem_cons.mpr ⟨carried _ proper.head, proper.suffixes⟩

theorem join_isProper {type : TypeExpr} (proper : type.IsProper) {opened : List Chain.Place} {index : Nat}
    {suffixes : List (Suffix × Chain.Place)} (each : ∀ suffix ∈ suffixes, suffix.1.IsProper) :
    (join type opened index suffixes).IsProper := by
  induction suffixes generalizing type opened index with
  | nil => exact proper
  | cons first rest step =>
    obtain ⟨ofFirst, ofRest⟩ := List.forall_mem_cons.mp each
    exact step (TypeExpr.extend_isProper ofFirst _ type proper) ofRest

/-- The type that a proper spine stands for is proper. -/
theorem settle_isProper {spine : Spine TypeExpr} (proper : spine.IsProper TypeExpr.IsProper) :
    spine.settle.IsProper := by
  refine join_isProper proper.head fun suffix member => ?_
  exact proper.suffixes suffix.1 (List.of_mem_zip member).1

end Spine

end Exposure
