import Exposure.Proofs.Relocation
import Exposure.Proofs.Source

/-!
Layout does not matter: texts of the same tokens are read as the same items up to positions or are refused for the same,
and they have the same descriptors or are at fault for the same.
-/

namespace Exposure

/-- Two readings are of items that agree up to positions, or are both unfinished, or are spoiled by tokens that agree
up to positions. -/
inductive Reading.Agree : Reading → Reading → Prop
  | complete {items items' : List Item} (same : SameButPlaces items items') : Agree (complete items) (complete items')
  | incomplete : Agree incomplete incomplete
  | spoiled {token token' : Token} (same : SameButPlaces token token') : Agree (spoiled token) (spoiled token')

/-- A reading with its positions moved. -/
def Reading.movedBy (move : Position → Position) : Reading → Reading
  | complete items => complete (moved move items)
  | incomplete => incomplete
  | spoiled token => spoiled (moved move token)

/-- What tokens that are moved amount to is what they amount to, moved in the same way. -/
theorem Reading.ofTokens_moved (move : Position → Position) (tokens : List Token) :
    ofTokens (moved move tokens) = (ofTokens tokens).movedBy move := by
  rcases Rule.moduleItems_moves.run (Rule.rules_move move) (moved_eq_iff_forall₂.mp (Eq.refl (moved move tokens))) with
    ⟨rest, rest', ran, ran', alike⟩ | ⟨stopped, stopped', ran, ran', sameToken⟩
  · have empties := alike.empty?
    simp only [ofTokens, ran, ran']
    generalize rest.empty? = found, rest'.empty? = found' at empties ⊢
    cases empties with
    | none => rfl
    | some sameItems => exact congrArg complete sameItems.symm
  · simp only [ofTokens, ran, ran']
    exact congrArg spoiled sameToken.symm

/-- What tokens amount to does not depend on their positions. -/
theorem Reading.ofTokens_agree {tokens tokens' : List Token} (same : SameButPlaces tokens tokens') :
    Agree (ofTokens tokens) (ofTokens tokens') := by
  have readings : (ofTokens tokens).movedBy (fun _ => .start) = (ofTokens tokens').movedBy fun _ => .start := by
    rw [← ofTokens_moved, ← ofTokens_moved, ← unplaced_eq, ← unplaced_eq]
    exact congrArg ofTokens same
  have agree {value : Type} [Placed value] [Movable value] {one two : value}
      (same : moved (fun _ => Position.start) one = moved (fun _ => Position.start) two) : SameButPlaces one two := by
    rw [SameButPlaces, unplaced_eq, unplaced_eq, same]
  generalize ofTokens tokens = reading at readings ⊢
  generalize ofTokens tokens' = reading' at readings ⊢
  cases reading with
  | complete items =>
    cases reading' with
    | complete items' => exact .complete (agree (complete.inj readings))
    | _ => cases readings
  | incomplete =>
    cases reading' with
    | incomplete => exact .incomplete
    | _ => cases readings
  | spoiled token =>
    cases reading' with
    | spoiled token' => exact .spoiled (agree (spoiled.inj readings))
    | _ => cases readings

section Texts

variable {one two : String} (lexed : (Lexing.ofText one).failure = none) (lexed' : (Lexing.ofText two).failure = none)
  (same : SameButPlaces (Lexing.ofText one).tokens (Lexing.ofText two).tokens)

include lexed lexed' same

/-- Texts of the same tokens are read as the same items, or are refused for the same, up to positions. -/
theorem parse_agree : Outcome.Agree SameButPlaces (parse one) (parse two) := by
  have readings := Reading.ofTokens_agree same
  rw [parse, parse, lexed, lexed']
  generalize Reading.ofTokens (Lexing.ofText one).tokens = reading at readings ⊢
  generalize Reading.ofTokens (Lexing.ofText two).tokens = reading' at readings ⊢
  cases readings with
  | complete sameItems => exact .ok sameItems
  | incomplete => exact .error rfl
  | @spoiled token token' sameToken =>
    have texts := congrArg Token.text sameToken
    have sameText : token.text = token'.text := texts
    simp only [sameText]
    exact .error rfl

end Texts

namespace Expansion

/-- Expansions have the same descriptors, in the same order. -/
abbrev SameDescriptors (one two : List Expansion) : Prop := one.map descriptor = two.map descriptor

/-- Items that agree up to positions, among items that do, are described alike. -/
theorem ofItem?_agree (text text' : String) {items items' : List Item} (sameItems : SameButPlaces items items')
    {item item' : Item} (same : SameButPlaces item item') :
    Outcome.Agree (fun found found' => found.map descriptor = found'.map descriptor) (ofItem? text items item)
      (ofItem? text' items' item') := by
  have before := describe?_carries (associated items item) item
  have after := describe?_carries (associated items' item') item'
  rw [← associated_unplaced] at before after
  rw [show unplaced items = unplaced items' from sameItems, show unplaced item = unplaced item' from same] at before
  refine (before.agree after).bind fun found found' same => ?_
  obtain rfl : found = found' := same
  cases found <;> exact .ok rfl

/-- Items that agree up to positions have the same descriptors, or are at fault for the same. -/
theorem ofItems_agree (text text' : String) {items items' : List Item} (same : SameButPlaces items items') :
    Outcome.Agree SameDescriptors (ofItems text items) (ofItems text' items') := by
  refine (Outcome.agree_mapM (fun _ _ sameItem => ofItem?_agree text text' same sameItem)
    (SameButPlaces.iff_forall₂.mp same)).bind fun found found' each => ?_
  refine .ok ?_
  show (found.filterMap id).map descriptor = (found'.filterMap id).map descriptor
  induction each with
  | nil => rfl
  | @cons first first' _ _ sameFirst _ again =>
    cases first with
    | none =>
      cases first' with
      | none => exact again
      | some expansion => cases sameFirst
    | some expansion =>
      cases first' with
      | none => cases sameFirst
      | some expansion' => exact List.cons_eq_cons.mpr ⟨Option.some.inj sameFirst, again⟩

end Expansion

namespace Item

theorem flattenAll_append (one two : List Item) : flattenAll (one ++ two) = flattenAll one ++ flattenAll two := by
  induction one with
  | nil => rfl
  | cons first rest again => rw [List.cons_append, flattenAll, flattenAll, again, List.append_assoc]

mutual

theorem flatten_withoutPlaces : (item : Item) → item.withoutPlaces.flatten = unplaced item.flatten
  | structItem _ => rfl
  | enumItem _ => rfl
  | functionItem _ => rfl
  | implItem .. => rfl
  | moduleItem header name items => by
    rw [withoutPlaces, flatten, flatten, flattenAll_withoutPlacesAll items]

theorem flattenAll_withoutPlacesAll : (items : List Item) → flattenAll (withoutPlacesAll items) = unplaced (flattenAll items)
  | [] => rfl
  | first :: rest => by
    rw [withoutPlacesAll, flattenAll, flattenAll, flatten_withoutPlaces first, flattenAll_withoutPlacesAll rest,
      unplaced_append]

end

/-- Modules are flattened alike wherever they stand. -/
theorem flattenAll_sameButPlaces {items items' : List Item} (same : SameButPlaces items items') :
    SameButPlaces (flattenAll items) (flattenAll items') := by
  have before := flattenAll_withoutPlacesAll items
  have after := flattenAll_withoutPlacesAll items'
  rw [withoutPlacesAll_eq] at before after
  rw [show unplaced items = unplaced items' from same] at before
  exact before.symm.trans after

end Item

/-- Texts of the same tokens are read as items that agree up to positions or are refused for the same up to positions;
they have the same descriptors or are at fault for the same up to positions; and where one is at fault with a report, the
other is with one of the same family, kind, subject and message. -/
theorem layout_isIrrelevant {one two : String} (lexed : (Lexing.ofText one).failure = none)
    (lexed' : (Lexing.ofText two).failure = none)
    (same : SameButPlaces (Lexing.ofText one).tokens (Lexing.ofText two).tokens) :
    Outcome.Agree SameButPlaces (parse one) (parse two) ∧
    Outcome.Agree Expansion.SameDescriptors (Expansion.ofText one) (Expansion.ofText two) ∧
    ∀ report, Expansion.ofText one = .error (.diagnostic report) →
      ∃ report', Expansion.ofText two = .error (.diagnostic report') ∧ report'.cause.family = report.cause.family ∧
        report'.cause.kind = report.cause.kind ∧ report'.cause.ident = report.cause.ident ∧
        report'.message = report.message := by
  have parsed := parse_agree lexed lexed' same
  have expanded : Outcome.Agree Expansion.SameDescriptors (Expansion.ofText one) (Expansion.ofText two) :=
    parsed.bind fun items items' sameItems => Expansion.ofItems_agree one two (Item.flattenAll_sameButPlaces sameItems)
  refine ⟨parsed, expanded, fun report refused => ?_⟩
  rw [refused] at expanded
  generalize Expansion.ofText two = outcome at expanded ⊢
  cases expanded with
  | error sameFault =>
    obtain ⟨report', rfl, causes⟩ := exists_of_sameButPlaces_diagnostic sameFault
    exact ⟨report', rfl, by rw [causes], by rw [causes], by rw [causes], by rw [Diagnostic.message, causes, Diagnostic.message]⟩

/-- Two layouts of a class with a constructor have the same descriptors. -/
theorem layout_isIrrelevant_class :
    Outcome.Agree Expansion.SameDescriptors
      (Expansion.ofText "#[pyclass] struct S(u8); #[pymethods] impl S \x7b #[new] fn new() -> Self \x7b S(0) \x7d \x7d")
      (Expansion.ofText ("// a class\n#[ pyclass ]\nstruct S ( u8 ) ;\n\n#[pymethods]/* its methods */impl S\x7b" ++
        "#[new]\n  fn new ( )->Self\x7bS(0)\x7d\x7d")) := by
  refine (layout_isIrrelevant ?_ ?_ ?_).2.1
  · decide +kernel
  · decide +kernel
  · rw [SameButPlaces]
    decide +kernel

end Exposure
