import Exposure.Expansion
import Exposure.Proofs.Description
import Exposure.Proofs.Pieces

/-!
The text of an item is an item: cut out of the text in which it was found, it is read as the same item up to positions,
and items stand one behind another, each inside the item that holds it.
-/

namespace Exposure

namespace Span

/-- A stretch ends before another begins. -/
def Before (one two : Span) : Prop := one.stop.offset ≤ two.start.offset

/-- A stretch lies inside another. -/
def Inside (inner outer : Span) : Prop :=
  outer.start.offset ≤ inner.start.offset ∧ inner.stop.offset ≤ outer.stop.offset

/-- A stretch has at least one character. -/
def Proper (span : Span) : Prop := span.start.offset < span.stop.offset

end Span

namespace Item

/-- The lists of siblings among some items: the items themselves, and the items directly inside one at any depth. -/
inductive Siblings (items : List Item) : List Item → Prop
  | top : Siblings items items
  | inside {others : List Item} {parent : Item} (level : Siblings items others) (member : parent ∈ others) :
      Siblings items parent.children

end Item

namespace Rule

open Lexeme (Between)

/-- The stretch that an item covers lies where its tokens lie, and they lie in it. -/
theorem span_of_between {first last : Nat} {inside : List Token} {closing : Token} {span : Span}
    (covers : span = .ofTokens (inside ++ [closing])) (between : Between first (inside ++ [closing]) last) :
    first ≤ span.start.offset ∧ span.Proper ∧ span.stop.offset ≤ last ∧
      ∃ middle, Between span.start.offset inside middle ∧ middle ≤ span.stop.offset := by
  have stop : span.stop = closing.stop := by simp [covers, Span.ofTokens]
  obtain ⟨middle, ofInside, _ | ⟨behind, proper, ordered⟩⟩ := between.of_append
  have closes := ordered.le
  rw [Span.Proper, stop]
  cases ofInside with
  | nil begins =>
    have start : span.start = closing.start := by rw [covers]; rfl
    rw [start]
    exact ⟨by omega, proper, closes, closing.start.offset, .nil (Nat.le_refl _), by omega⟩
  | @cons _ _ token others begins nonempty further =>
    have start : span.start = token.start := by rw [covers]; rfl
    have reaches := further.le
    rw [start]
    exact ⟨begins, by omega, closes, middle, .cons (Nat.le_refl _) nonempty further, by omega⟩

namespace Members

theorem exists_of_mem {tokens : List Token} {items : List Item} (members : Members tokens items) {found : Item}
    (member : found ∈ items) :
    ∃ before stretch after, tokens = before ++ stretch ++ after ∧ item.read? stretch = some (some found) := by
  induction members with
  | nil gap => cases member
  | @cons gap stretch rest head others read behind again =>
    rcases List.mem_cons.mp member with rfl | member
    · exact ⟨gap, stretch, rest, rfl, read⟩
    · obtain ⟨before, stretch', after, rfl, readFound⟩ := again member
      exact ⟨gap ++ stretch ++ before, stretch', after, by simp, readFound⟩

/-- Items that are read from a token list stand in their order where the tokens stand. -/
theorem ordered {tokens : List Token} {items : List Item} (members : Members tokens items) {first last : Nat}
    (between : Between first tokens last) :
    items.Pairwise (fun one two => one.span.Before two.span) ∧
      ∀ found ∈ items, first ≤ found.span.start.offset ∧ found.span.Proper ∧ found.span.stop.offset ≤ last := by
  induction members generalizing first with
  | nil gap => exact ⟨.nil, nofun⟩
  | @cons gap stretch rest head others read behind again =>
    obtain ⟨covers, inside, closing, rfl, -, -⟩ := exists_of_read?_item read
    obtain ⟨end_, ofFront, ofRest⟩ := between.of_append
    obtain ⟨begin_, ofGap, ofStretch⟩ := ofFront.of_append
    obtain ⟨begins, proper, ends, -⟩ := span_of_between covers ofStretch
    have start := ofGap.le
    have stop := ofRest.le
    have nonempty : head.span.start.offset < head.span.stop.offset := proper
    obtain ⟨pairs, bounds⟩ := again ofRest
    refine ⟨List.pairwise_cons.mpr ⟨fun other member => ?_, pairs⟩, fun found member => ?_⟩
    · exact Nat.le_trans ends (bounds other member).1
    · rcases List.mem_cons.mp member with rfl | member
      · exact ⟨by omega, proper, by omega⟩
      · obtain ⟨low, further, high⟩ := bounds found member
        exact ⟨by omega, further, high⟩

end Members

/-- Among the tokens of an item there is a run from which the list of its siblings is read, at any depth. -/
theorem members_of_siblings {tokens : List Token} {items siblings : List Item} (members : Members tokens items)
    (level : Item.Siblings items siblings) :
    ∃ before run after, tokens = before ++ run ++ after ∧ Members run siblings := by
  induction level with
  | top => exact ⟨[], tokens, [], by simp, members⟩
  | @inside others parent _ member again =>
    obtain ⟨before, run, after, rfl, ofOthers⟩ := again
    obtain ⟨before', stretch, after', rfl, read⟩ := ofOthers.exists_of_mem member
    obtain ⟨-, inner, closing, rfl, -, ofChildren⟩ := exists_of_read?_item read
    exact ⟨before ++ before', inner, [closing] ++ after' ++ after, by simp, ofChildren⟩

namespace Members

theorem append {one two : List Token} {items others : List Item} (ofItems : Members one items)
    (ofOthers : Members two others) : Members (one ++ two) (items ++ others) := by
  induction ofItems with
  | nil gap => simpa using ofOthers.widen gap []
  | cons gap read _ again => simpa using Members.cons gap read again

end Members

mutual

theorem members_flatten {stretch : List Token} :
    (found : Item) → item.read? stretch = some (some found) → Members stretch found.flatten
  | .moduleItem header name items, read => by
    obtain ⟨-, inside, closing, rfl, -, ofChildren⟩ := exists_of_read?_item read
    simpa [Item.flatten] using (members_flattenAll items ofChildren).widen [] [closing]
  | .structItem _, read => by simpa [Item.flatten] using Members.cons [] read (.nil [])
  | .enumItem _, read => by simpa [Item.flatten] using Members.cons [] read (.nil [])
  | .functionItem _, read => by simpa [Item.flatten] using Members.cons [] read (.nil [])
  | .implItem .., read => by simpa [Item.flatten] using Members.cons [] read (.nil [])

/-- The items outside and inside the modules of a list are read from stretches one behind another. -/
theorem members_flattenAll {tokens : List Token} :
    (items : List Item) → Members tokens items → Members tokens (Item.flattenAll items)
  | [], _ => .nil tokens
  | first :: rest, members => by
    obtain _ | ⟨gap, read, behind⟩ := members
    simpa [Item.flattenAll] using ((members_flatten first read).widen gap []).append (members_flattenAll rest behind)

end

/-! Reading a text again -/

theorem read?_moduleItems_of_item {tokens : List Token} {found : Item}
    (read : item.read? tokens = some (some found)) : moduleItems.read? tokens = some [found] := by
  obtain ⟨-, inside, closing, rfl, -, -⟩ := exists_of_read?_item read
  have one : Rule.read? (item <|> (fun _ => none) <$> innerAttribute) (inside ++ [closing]) = some (some found) := by
    refine (Grammar.read?_choice _ _ _).trans ?_
    rw [show Grammar.read? rules item (inside ++ [closing]) = _ from read]
    rfl
  have many := Grammar.read?_many_of_read? one (by simp)
  exact (Grammar.read?_map _ _ _).trans (congrArg (Option.map _) many)

end Rule

/-- Tokens amount to items when they are read as these. -/
theorem Reading.ofTokens_eq_complete {tokens : List Token} {items : List Item} :
    ofTokens tokens = .complete items ↔ Rule.moduleItems.read? tokens = some items := by
  simp only [ofTokens, Rule.read?, Grammar.read?]
  cases Grammar.run Rule.rules Rule.moduleItems tokens with
  | error token => simp
  | ok remaining => cases completed : remaining.empty? <;> simp [completed]

/-- A text is accepted when all of it is lexed and its tokens are read. -/
theorem parse_eq_ok {text : String} {items : List Item} :
    parse text = .ok items ↔
      (Lexing.ofText text).failure = none ∧ Rule.moduleItems.read? (Lexing.ofText text).tokens = some items := by
  rw [← Reading.ofTokens_eq_complete, parse]
  cases Reading.ofTokens (Lexing.ofText text).tokens <;> cases (Lexing.ofText text).failure <;> simp

/-- The lexemes of an accepted text, and the items read from their tokens. -/
theorem exists_of_parse {text : String} {items : List Item} (accepted : parse text = .ok items) :
    ∃ pieces, Lexeme.Pieces text.toList pieces [] ∧
      Rule.moduleItems.read? (Lexeme.tokensFrom .start pieces) = some items := by
  obtain ⟨complete, read⟩ := parse_eq_ok.mp accepted
  obtain ⟨pieces, covers, lexemes⟩ := Lexeme.exists_pieces complete
  refine ⟨pieces, covers, ?_⟩
  rwa [Lexing.tokens, Lexing.ofText, lexemes] at read

/-- A text of some pieces is accepted when their tokens are read, wherever they are thought to stand. -/
theorem parse_of_pieces {chars : List Char} {pieces : List Piece} (covers : Lexeme.Pieces chars pieces [])
    {position : Position} {items : List Item}
    (read : Rule.moduleItems.read? (Lexeme.tokensFrom position pieces) = some items) :
    ∃ again, parse (String.ofList chars) = .ok again ∧ SameButPlaces again items := by
  have lexed : Lexing.ofText (String.ofList chars) = ⟨Lexeme.place .start pieces, none⟩ := by
    rw [Lexing.ofText, String.toList_ofList]
    exact Lexeme.scan_of_pieces covers .start
  obtain ⟨again, found, same⟩ := Rule.exists_of_sameButPlaces (fun _ => Rule.moduleItems_moves)
    (Lexeme.tokensFrom_sameButPlaces .start position pieces) read
  refine ⟨again, parse_eq_ok.mpr ⟨by rw [lexed], ?_⟩, same⟩
  rwa [lexed]

/-- The tokens of pieces that begin and end with tokens cover all characters of the pieces. -/
theorem ofTokens_tokensFrom (position : Position) {core : List Piece} {terminal : Terminal} {last : List Char}
    (begins : Lexeme.BeginsToken (core ++ [(some terminal, last)])) :
    Span.ofTokens (Lexeme.tokensFrom position (core ++ [(some terminal, last)])) =
      ⟨position, position.past (Lexeme.chars (core ++ [(some terminal, last)]))⟩ := by
  have start : (Lexeme.tokensFrom position (core ++ [(some terminal, last)])).head?.map Token.start = some position := by
    obtain ⟨first, front, others, pieces⟩ := begins
    rw [pieces]
    rfl
  have stop : (Lexeme.tokensFrom position (core ++ [(some terminal, last)])).getLast?.map Token.stop =
      some (position.past (Lexeme.chars (core ++ [(some terminal, last)]))) := by
    obtain ⟨token, ofLast, ends⟩ : ∃ token,
        Lexeme.tokensFrom (position.past (Lexeme.chars core)) [(some terminal, last)] = [token] ∧
          token.stop = (position.past (Lexeme.chars core)).past last := ⟨_, rfl, rfl⟩
    have chars : Lexeme.chars (core ++ [(some terminal, last)]) = Lexeme.chars core ++ last := by simp [Lexeme.chars]
    rw [Lexeme.tokensFrom_append, ofLast, List.getLast?_concat, Option.map_some, ends, chars, Lexeme.past_append]
  rw [Span.ofTokens, start, stop]
  rfl

/-- The text of an item is that of the pieces that it covers. -/
theorem source_of_pieces {text : String} {found : Item} {pre middle post : List Piece}
    (characters : text.toList = Lexeme.chars (pre ++ middle ++ post))
    (covered : found.span = ⟨Position.start.past (Lexeme.chars pre),
      (Position.start.past (Lexeme.chars pre)).past (Lexeme.chars middle)⟩) :
    found.source text = String.ofList (Lexeme.chars middle) := by
  have parts : text.toList = Lexeme.chars pre ++ (Lexeme.chars middle ++ Lexeme.chars post) := by
    rw [characters, Lexeme.chars, List.flatMap_append, List.flatMap_append, List.append_assoc]
    rfl
  have begins : found.span.start.offset = (Lexeme.chars pre).length := by
    rw [covered, Position.offset_past]
    exact Nat.zero_add _
  have ends : found.span.stop.offset - found.span.start.offset = (Lexeme.chars middle).length := by
    rw [covered, Position.offset_past]
    exact Nat.add_sub_cancel_left _ _
  rw [Item.source, Span.slice, ends, begins, parts, List.drop_left, List.take_left]

/-- An item that is read from a stretch of an accepted text is read from pieces of its own, and they are its text. -/
theorem exists_pieces_of_item {text : String} {pieces : List Piece} (covers : Lexeme.Pieces text.toList pieces [])
    {before stretch after : List Token} (tokens : Lexeme.tokensFrom .start pieces = before ++ stretch ++ after)
    {found : Item} (read : Rule.item.read? stretch = some (some found)) :
    ∃ pre core terminal last post, pieces = pre ++ (core ++ [(some terminal, last)]) ++ post ∧
      terminal.closesItem = true ∧ Lexeme.BeginsToken (core ++ [(some terminal, last)]) ∧
      Rule.item.read? (Lexeme.tokensFrom (Position.start.past (Lexeme.chars pre)) (core ++ [(some terminal, last)])) =
        some (some found) ∧
      found.source text = String.ofList (Lexeme.chars (core ++ [(some terminal, last)])) := by
  obtain ⟨covered, inside, closing, rfl, closes, -⟩ := Rule.exists_of_read?_item read
  obtain ⟨pre, core, last, post, rfl, ofStretch, begins⟩ := Lexeme.exists_of_stretch closes tokens
  refine ⟨pre, core, closing.terminal, last, post, rfl, closes, begins, by rwa [ofStretch], ?_⟩
  refine source_of_pieces (by simpa using covers.eq_append) ?_
  rw [covered, ← ofStretch, ofTokens_tokensFrom _ begins]

/-- The text of an item that is read from a stretch of an accepted text is read as that item. -/
theorem parseItem_source_of_stretch {text : String} {pieces : List Piece} (covers : Lexeme.Pieces text.toList pieces [])
    {before stretch after : List Token} (tokens : Lexeme.tokensFrom .start pieces = before ++ stretch ++ after)
    {found : Item} (read : Rule.item.read? stretch = some (some found)) :
    ∃ again, parseItem (found.source text) = .ok again ∧ SameButPlaces again found := by
  obtain ⟨pre, core, terminal, last, post, rfl, closes, -, read, slice⟩ := exists_pieces_of_item covers tokens read
  rw [List.append_assoc, Lexeme.Pieces.append_iff] at covers
  obtain ⟨middle, -, covers⟩ := covers
  obtain ⟨rest, ofCore, -⟩ := Lexeme.Pieces.append_iff.mp covers
  obtain ⟨front, mark, -, sameChars, cut⟩ := ofCore.cut closes
  obtain ⟨items, parsed, same⟩ := parse_of_pieces cut (Rule.read?_moduleItems_of_item read)
  obtain ⟨again, rfl, sameFound⟩ : ∃ again, items = [again] ∧ SameButPlaces again found := by
    obtain _ | ⟨ofHead, _ | _⟩ := SameButPlaces.iff_forall₂.mp same
    exact ⟨_, rfl, ofHead⟩
  refine ⟨again, ?_, sameFound⟩
  rw [slice, sameChars, parseItem, parsed]
  rfl

namespace Expansion

/-- The items of some expansions are among the items of the list, in their order. -/
theorem items_sublist {text : String} {all items : List Item} {found : List (Option Expansion)}
    (each : List.Forall₂ (fun item maybe => ofItem? text all item = .ok maybe) items found) :
    ((found.filterMap id).map Expansion.item).Sublist items := by
  induction each with
  | nil => exact .slnil
  | @cons item maybe _ _ one _ step =>
    cases maybe with
    | none => exact step.cons item
    | some expansion =>
      obtain ⟨described, -, same⟩ := ofItem?_eq_ok.mp one
      obtain ⟨descriptor, -, rfl⟩ := Option.map_eq_some_iff.mp same
      exact step.cons_cons item

end Expansion

section Placement

variable {text : String} {items : List Item}

/-- Siblings stand one behind another, and every item stands inside the item that holds it. -/
theorem siblings_ordered (accepted : parse text = .ok items) {siblings : List Item}
    (level : Item.Siblings items siblings) :
    siblings.Pairwise (fun one two => one.span.Before two.span) ∧
      ∀ found ∈ siblings, found.span.Proper ∧ ∀ child ∈ found.children, child.span.Inside found.span := by
  obtain ⟨pieces, covers, read⟩ := exists_of_parse accepted
  obtain ⟨before, run, after, tokens, members⟩ := Rule.members_of_siblings (Rule.members_of_moduleItems read) level
  have between := Lexeme.between_of_pieces covers .start
  rw [tokens] at between
  obtain ⟨last, ofFront, -⟩ := between.of_append
  obtain ⟨first, -, ofRun⟩ := ofFront.of_append
  obtain ⟨pairs, bounds⟩ := members.ordered ofRun
  refine ⟨pairs, fun found member => ⟨(bounds found member).2.1, ?_⟩⟩
  obtain ⟨before', stretch, after', rfl, readFound⟩ := members.exists_of_mem member
  obtain ⟨covered, inside, closing, rfl, -, ofChildren⟩ := Rule.exists_of_read?_item readFound
  obtain ⟨_, ofFront, -⟩ := ofRun.of_append
  obtain ⟨_, -, ofStretch⟩ := ofFront.of_append
  obtain ⟨-, -, -, middle, ofInside, ends⟩ := Rule.span_of_between covered ofStretch
  intro child isChild
  obtain ⟨low, -, high⟩ := (ofChildren.ordered ofInside).2 child isChild
  exact ⟨low, Nat.le_trans high ends⟩

/-- The text of every item of an accepted text, at any depth, is read as that item up to positions. -/
theorem parseItem_source (accepted : parse text = .ok items) {siblings : List Item}
    (level : Item.Siblings items siblings) {found : Item} (member : found ∈ siblings) :
    ∃ again, parseItem (found.source text) = .ok again ∧ SameButPlaces again found := by
  obtain ⟨pieces, covers, read⟩ := exists_of_parse accepted
  obtain ⟨before, run, after, tokens, members⟩ := Rule.members_of_siblings (Rule.members_of_moduleItems read) level
  obtain ⟨before', stretch, after', rfl, readFound⟩ := members.exists_of_mem member
  have split : Lexeme.tokensFrom .start pieces = (before ++ before') ++ stretch ++ (after' ++ after) := by
    simp [tokens]
  exact parseItem_source_of_stretch covers split readFound

/-- The items outside and inside the modules of an accepted text stand one behind another in it. -/
theorem flattenAll_ordered (accepted : parse text = .ok items) :
    (Item.flattenAll items).Pairwise (fun one two => one.span.Before two.span) ∧
      ∀ found ∈ Item.flattenAll items, found.span.Proper ∧ found.span.stop.offset ≤ text.length := by
  obtain ⟨pieces, covers, read⟩ := exists_of_parse accepted
  have members := Rule.members_flattenAll items (Rule.members_of_moduleItems read)
  obtain ⟨pairs, bounds⟩ := members.ordered (Lexeme.between_of_pieces covers .start)
  refine ⟨pairs, fun found member => ⟨(bounds found member).2.1, ?_⟩⟩
  have size : text.length = (Lexeme.chars pieces).length := by
    rw [← String.length_toList, covers.eq_append, List.append_nil]
  have high := (bounds found member).2.2
  have zero : Position.start.offset = 0 := rfl
  omega

end Placement

/-- The text of every item of an accepted text, at any depth, is read as that item up to positions; siblings stand one
behind another, every item stands inside the item that holds it, and the expansions stand one behind another. -/
theorem items_readBack {text : String} {items : List Item} (accepted : parse text = .ok items) :
    (∀ siblings, Item.Siblings items siblings →
      siblings.Pairwise (fun one two => one.span.Before two.span) ∧
      ∀ found ∈ siblings, found.span.Proper ∧ (∀ child ∈ found.children, child.span.Inside found.span) ∧
        ∃ again, parseItem (found.source text) = .ok again ∧ SameButPlaces again found) ∧
    ∀ expansions, Expansion.ofText text = .ok expansions →
      expansions.Pairwise (fun one two => one.item.span.Before two.item.span) ∧
      ∀ expansion ∈ expansions, expansion.source = expansion.item.source text ∧ expansion.item.span.Proper ∧
        expansion.item.span.stop.offset ≤ text.length := by
  constructor
  · intro siblings level
    obtain ⟨pairs, inside⟩ := siblings_ordered accepted level
    refine ⟨pairs, fun found member => ?_⟩
    obtain ⟨proper, ofChildren⟩ := inside found member
    exact ⟨proper, ofChildren, parseItem_source accepted level member⟩
  · intro expansions run
    obtain ⟨items', accepted', run⟩ := Outcome.bind_eq_ok.mp run
    cases accepted.symm.trans accepted'
    obtain ⟨pairs, bounds⟩ := flattenAll_ordered accepted
    have inOrder : (expansions.map Expansion.item).Sublist (Item.flattenAll items) := by
      obtain ⟨found, each, rfl⟩ := Expansion.ofItems_eq_ok.mp run
      exact Expansion.items_sublist each
    have expanded := pairs.sublist inOrder
    rw [List.pairwise_map] at expanded
    refine ⟨expanded, fun expansion member => ?_⟩
    obtain ⟨isItem, -, source⟩ := Expansion.exists_item_of_mem run member
    exact ⟨source, bounds expansion.item isItem⟩

/-- The two items of a text with a comment between them are read back from their own texts. -/
theorem items_readBack_twoItems :
    ∃ items, parse "mod m \x7b impl A \x7b fn f(); \x7d \x7d /* ; */ #[pyclass] struct S(u8);" = .ok items ∧
      items.length = 2 ∧ items.Pairwise (fun one two => one.span.Before two.span) ∧
      ∀ found ∈ items, ∃ again, SameButPlaces again found ∧ parseItem
        (found.source "mod m \x7b impl A \x7b fn f(); \x7d \x7d /* ; */ #[pyclass] struct S(u8);") = .ok again := by
  have accepted : (parse "mod m \x7b impl A \x7b fn f(); \x7d \x7d /* ; */ #[pyclass] struct S(u8);").toOption.any
      (fun items => items.length = 2) = true := by
    decide +kernel
  obtain ⟨items, accepted, two⟩ := (Option.any_eq_true _ _).mp accepted
  have parsed := Outcome.toOption_eq_some.mp accepted
  obtain ⟨pairs, each⟩ := (items_readBack parsed).1 items .top
  refine ⟨items, parsed, of_decide_eq_true two, pairs, fun found member => ?_⟩
  obtain ⟨-, -, again, reads, same⟩ := each found member
  exact ⟨again, same, reads⟩

end Exposure
