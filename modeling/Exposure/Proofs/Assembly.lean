import Exposure.Proofs.Continuation
import Exposure.Proofs.Registration
import Exposure.Proofs.Source

/-!
Texts that are put together from items and from calls of code generators are accepted, and their items are those that
were put in: the same up to positions, each with its text.
-/

namespace Exposure

open Lexeme

/-- An item that is read from some pieces, which stand at a position, is a given item up to positions and covers a
stretch with given characters. -/
structure IsFoundIn (position : Position) (pieces : List Piece) (found : Item) (given : Item × List Char) : Prop where
  same : SameButPlaces found given.1
  stretch : ∃ pre middle post, pieces = pre ++ middle ++ post ∧ chars middle = given.2 ∧
    found.span = ⟨position.past (chars pre), (position.past (chars pre)).past (chars middle)⟩

theorem IsFoundIn.widen {position : Position} {pieces : List Piece} {found : Item} {given : Item × List Char}
    (before after : List Piece) (isFound : IsFoundIn (position.past (chars before)) pieces found given) :
    IsFoundIn position (before ++ pieces ++ after) found given := by
  obtain ⟨same, pre, middle, post, rfl, characters, span⟩ := isFound
  refine ⟨same, before ++ pre, middle, post ++ after, by simp, characters, ?_⟩
  have joined : chars (before ++ pre) = chars before ++ chars pre := List.flatMap_append
  rw [span, joined, past_append]

/-- Some pieces hold given items with their characters: wherever the pieces stand, their tokens are those of items and
of calls of code generators one behind another, and the items are found in the pieces. -/
def Holds (pieces : List Piece) (given : List (Item × List Char)) : Prop :=
  ∀ position, ∃ chunks : List (List Token × Option Item), tokensFrom position pieces = chunks.flatMap Prod.fst ∧
    (∀ chunk ∈ chunks, Rule.item.read? chunk.1 = some chunk.2) ∧
    List.Forall₂ (IsFoundIn position pieces) (chunks.filterMap Prod.snd) given

namespace Holds

theorem nil : Holds [] [] := fun _ => ⟨[], rfl, List.forall_mem_nil _, .nil⟩

theorem blanks (text : List Char) : Holds [(none, text)] [] := fun _ => ⟨[], rfl, List.forall_mem_nil _, .nil⟩

theorem append {one two : List Piece} {given given' : List (Item × List Char)} (ofOne : Holds one given)
    (ofTwo : Holds two given') : Holds (one ++ two) (given ++ given') := by
  intro position
  obtain ⟨chunks, tokens, reads, found⟩ := ofOne position
  obtain ⟨chunks', tokens', reads', found'⟩ := ofTwo (position.past (chars one))
  refine ⟨chunks ++ chunks', ?_, List.forall_mem_append.mpr ⟨reads, reads'⟩, ?_⟩
  · rw [tokensFrom_append, tokens, tokens', List.flatMap_append]
  · rw [List.filterMap_append]
    refine List.rel_append ?_ ?_
    · refine found.imp fun _ _ isFound => ?_
      have atStart : IsFoundIn (position.past (chars [])) one _ _ := isFound
      exact atStart.widen [] two
    · exact found'.imp fun _ _ isFound => by simpa using isFound.widen one []

/-- A call of a code generator holds no items. -/
theorem call {pieces : List Piece} (reads : ∀ position, Rule.item.read? (tokensFrom position pieces) = some none) :
    Holds pieces [] := fun position =>
  ⟨[(tokensFrom position pieces, none)], by simp, List.forall_mem_singleton.mpr (reads position), .nil⟩

/-- The pieces that an item is read from hold that item. -/
theorem item {core : List Piece} {terminal : Terminal} {last : List Char}
    (begins : BeginsToken (core ++ [(some terminal, last)])) {position : Position} {given : Item}
    (read : Rule.item.read? (tokensFrom position (core ++ [(some terminal, last)])) = some (some given)) :
    Holds (core ++ [(some terminal, last)]) [(given, chars (core ++ [(some terminal, last)]))] := by
  intro position'
  obtain ⟨again, reads, same⟩ := Rule.exists_of_sameButPlaces (fun _ => Rule.item_moves)
    (tokensFrom_sameButPlaces position' position (core ++ [(some terminal, last)])) read
  obtain ⟨found, rfl, sameFound⟩ := Option.map_eq_some_iff.mp same
  refine ⟨[(tokensFrom position' (core ++ [(some terminal, last)]), some found)], ?_,
    List.forall_mem_singleton.mpr reads, .cons ⟨sameFound, ?_⟩ .nil⟩
  · rw [List.flatMap_singleton]
  refine ⟨[], core ++ [(some terminal, last)], [], by simp, rfl, ?_⟩
  rw [(Rule.exists_of_read?_item reads).1, ofTokens_tokensFrom _ begins]
  rfl

end Holds

/-- A text of pieces that hold some items is accepted, and its items are those, each with its text. -/
theorem parse_of_holds {text : String} {pieces : List Piece} (covers : Pieces text.toList pieces [])
    {given : List (Item × List Char)} (holds : Holds pieces given) :
    ∃ again, parse text = .ok again ∧ List.Forall₂ (fun found one =>
      SameButPlaces found one.1 ∧ found.source text = String.ofList one.2) again given := by
  obtain ⟨chunks, tokens, reads, found⟩ := holds .start
  have lexed : Lexing.ofText text = ⟨place .start pieces, none⟩ := scan_of_pieces covers .start
  have lexedTokens : (Lexing.ofText text).tokens = chunks.flatMap Prod.fst := by rw [lexed, ← tokens]; rfl
  have many := Rule.read?_many_member reads
  refine ⟨chunks.filterMap Prod.snd, parse_eq_ok.mpr ⟨by rw [lexed], ?_⟩, ?_⟩
  · rw [lexedTokens]
    have read := (Grammar.read?_map (List.filterMap id) _ _).trans (congrArg (Option.map _) many)
    rw [Option.map_some, List.filterMap_map] at read
    exact read
  · refine found.imp fun one given isFound => ⟨isFound.same, ?_⟩
    obtain ⟨pre, middle, post, rfl, characters, span⟩ := isFound.stretch
    rw [source_of_pieces (by simpa using covers.eq_append) span, characters]

/-! Texts one behind another -/

namespace Lexeme.StandsAlone

variable {one two : List Char} {pieces others : List Piece}

/-- Texts that stand alone with blanks between them stand alone. -/
theorem append (ofOne : StandsAlone one pieces) (ofTwo : StandsAlone two others) {first : Char} {blanks : List Char}
    (blank : ∀ char ∈ first :: blanks, isBlank char = true) :
    StandsAlone (one ++ (first :: blanks ++ two)) (pieces ++ (none, first :: blanks) :: others) := by
  constructor
  · intro after
    rw [List.append_assoc, List.append_assoc]
    exact Pieces.append_iff.mpr ⟨_, ofOne.covers _, ofTwo.behind_blanks blank after⟩
  · obtain ⟨terminal, front, inside, rfl⟩ := ofOne.begins
    exact ⟨terminal, front, _, rfl⟩

end Lexeme.StandsAlone

/-- A line end of its own behind a text that stands alone and holds an item. -/
def IsEntry (text : String) (given : Item × List Char) : Prop :=
  ∃ core pieces, text.toList = core ++ ['\n'] ∧ StandsAlone core pieces ∧ Holds pieces [given]

/-- Entries that are joined by line ends hold their items. -/
theorem exists_pieces_of_entries {texts : List String} {given : List (Item × List Char)}
    (each : List.Forall₂ IsEntry texts given) :
    ∃ pieces, Pieces ("\n".intercalate texts).toList pieces [] ∧ Holds pieces given := by
  have tail {texts : List String} {given : List (Item × List Char)} (each : List.Forall₂ IsEntry texts given) :
      ∃ pieces, Pieces ('\n' :: Fragment.Layout.spread [] texts) pieces [] ∧ Holds pieces given := by
    induction each with
    | nil => exact ⟨[(none, ['\n'])], .cons_append (rfl : first? (['\n'] ++ []) = _) rfl (.nil []), .blanks _⟩
    | @cons text one texts given entry _ step =>
      obtain ⟨core, pieces, characters, alone, holds⟩ := entry
      obtain ⟨others, covers, ofOthers⟩ := step
      have lines : Fragment.Layout.spread [] (text :: texts) =
          '\n' :: (core ++ '\n' :: Fragment.Layout.spread [] texts) := by
        simp [Fragment.Layout.spread, characters]
      have blank : ∀ char ∈ ['\n', '\n'], isBlank char = true := List.all_eq_true.mp rfl
      have front := alone.behind_blanks blank ('\n' :: Fragment.Layout.spread [] texts)
      refine ⟨_, ?_, ((Holds.blanks ['\n', '\n']).append holds).append ofOthers⟩
      rw [lines]
      exact Pieces.append_iff.mpr ⟨_, front, covers⟩
  cases each with
  | nil => exact ⟨[], .nil [], .nil⟩
  | @cons text one texts given entry others =>
    obtain ⟨core, pieces, characters, alone, holds⟩ := entry
    obtain ⟨behind, covers, ofOthers⟩ := tail others
    refine ⟨_, ?_, holds.append ofOthers⟩
    rw [Fragment.Layout.toList_intercalate_cons, characters, List.append_assoc, List.singleton_append]
    exact Pieces.append_iff.mpr ⟨_, alone.covers _, covers⟩

end Exposure
