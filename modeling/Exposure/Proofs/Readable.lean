import Exposure.Proofs.Normal
import Exposure.Proofs.Spelling

/-!
The grammar accepts the words that a plain type is rendered with.
-/

namespace Exposure

open Word

namespace Rule

/-- A rule accepts some words, whatever the places of the tokens are. -/
def Takes {value : Type} (rule : Rule value) (words : List Word) : Prop :=
  ∀ tokens : List Token, tokens.map Token.word = words → rule.Accepts tokens

namespace Takes

variable {value other final : Type} {rule two : Rule value} {otherRule : Rule other} {words words' : List Word}

theorem map (takes : rule.Takes words) (transform : value → other) : Takes (transform <$> rule) words :=
  fun tokens same => (takes tokens same).map transform

theorem sequence (ofOne : rule.Takes words) (ofTwo : otherRule.Takes words') {result : value → other → final} :
    Takes (.sequence rule otherRule result) (words ++ words') := by
  intro tokens same
  obtain ⟨one, two, rfl, rfl, rfl⟩ := List.map_eq_append_iff.mp same
  exact (ofOne one rfl).sequence (ofTwo two rfl) result

theorem ofFirst (takes : rule.Takes words) : Takes (rule <|> two) words := fun tokens same => (takes tokens same).ofFirst

theorem ofSecond (takes : two.Takes words) : Takes (rule <|> two) words := fun tokens same => (takes tokens same).ofSecond

theorem none : Takes (Grammar.optional rule) [] := by
  intro tokens same
  obtain rfl := List.map_eq_nil_iff.mp same
  exact Grammar.Accepts.ofSecond rfl

theorem some (takes : rule.Takes words) : Takes (Grammar.optional rule) words := (takes.map _).ofFirst

theorem nil : Takes (Grammar.many rule) [] := by
  intro tokens same
  obtain rfl := List.map_eq_nil_iff.mp same
  rfl

theorem cons (takes : rule.Takes words) (proper : words ≠ []) (others : Takes (Grammar.many rule) words') :
    Takes (Grammar.many rule) (words ++ words') := by
  intro tokens same
  obtain ⟨one, two, rfl, rfl, rfl⟩ := List.map_eq_append_iff.mp same
  obtain ⟨first, readFirst⟩ := Option.isSome_iff_exists.mp (takes one rfl)
  obtain ⟨rest, readRest⟩ := Option.isSome_iff_exists.mp (others two rfl)
  have ofOne : one ≠ [] := fun empty => proper (by rw [empty]; rfl)
  exact (Grammar.Parts.cons readFirst ofOne (Grammar.parts_of_read?_many readRest)).accepts

end Takes

theorem takes_terminal (word : Word) : (terminal word.1).Takes [word] := by
  intro tokens same
  obtain ⟨token, rfl, rfl⟩ := List.map_eq_singleton_iff.mp same
  rw [Accepts, Grammar.Accepts, terminal, Grammar.read?_single]
  simp [Token.word]

theorem takes_mark (punctuation : Punctuation) : (mark punctuation).Takes [Word.mark punctuation] := takes_terminal _

theorem takes_word (keyword : Keyword) : (word keyword).Takes [reserved keyword] := takes_terminal _

theorem takes_ident (name : String) : ident.Takes [Word.ident name] := takes_terminal _

theorem takes_lifetime (name : String) : (terminal .lifetime).Takes [Word.lifetime name] := takes_terminal _

/-! The rules of types -/

section Types

variable {words words' : List Word}

theorem takes_openType (takes : typeRule.Takes words) : openType.Takes words := by
  intro tokens same
  have guarded : (rules .type).isGuarded = true := rfl
  have proper : (rules .type).isNullable = false := rfl
  have read : openType.read? tokens = typeRule.read? tokens :=
    (Grammar.read?_rule guarded proper id tokens).trans Option.map_id'
  exact (congrArg Option.isSome read).trans (takes tokens same)

theorem takes_within {value : Type} {rule : Rule value} (takes : rule.Takes words) (delimiter : Delimiter) :
    (within delimiter rule).Takes (Word.mark delimiter.opening :: (words ++ [Word.mark delimiter.closing])) :=
  Takes.sequence (.sequence (takes_mark delimiter.opening) takes) (takes_mark delimiter.closing)

theorem takes_perhaps {rule : Rule Token} {word : Word} (takes : rule.Takes [word]) (written : Bool) :
    Takes (Grammar.optional rule) (perhaps written word) := by
  cases written with
  | false => exact .none
  | true => exact takes.some

theorem takes_reference (takes : openType.Takes words) (life : Option String) (mutable : Bool) :
    referenceType.Takes (Word.mark .ampersand :: (ofLife life ++ perhaps mutable (reserved .mutWord) ++ words)) := by
  have takesLife : Takes (Grammar.optional (terminal .lifetime)) (ofLife life) := by
    cases life with
    | none => exact .none
    | some name => exact (takes_lifetime name).some
  have whole : referenceType.Takes _ := .sequence (.sequence (.map (.sequence (takes_mark .ampersand) takesLife) _)
    (takes_perhaps (takes_word .mutWord) mutable)) takes
  exact whole

theorem takes_pointer (takes : openType.Takes words) (mutable : Bool) :
    pointerType.Takes (Word.mark .star :: ofPointer mutable :: words) := by
  have ofWord : Takes ((fun _ => false) <$> word .constWord <|> (fun _ => true) <$> word .mutWord)
      [ofPointer mutable] := by
    cases mutable with
    | false => exact ((takes_word .constWord).map _).ofFirst
    | true => exact ((takes_word .mutWord).map _).ofSecond
  have whole : pointerType.Takes _ := .sequence (.map (.sequence (takes_mark .star) ofWord) _) takes
  exact whole

theorem takes_slice (takes : typeExpr.Takes words) :
    sequenceType.Takes (Word.mark .openBracket :: (words ++ [Word.mark .closeBracket])) := by
  have whole : sequenceType.Takes _ := takes_within (.sequence (takes.map _) .none) .bracket
  rwa [List.append_nil] at whole

theorem takes_treeInStatement {word : Word} (isLeaf : isPlainLeaf word.1 = true) : treeInStatement.Takes [word] := by
  have leaf : (satisfying isPlainLeaf).Takes [word] := by
    intro tokens same
    obtain ⟨token, rfl, rfl⟩ := List.map_eq_singleton_iff.mp same
    rw [Accepts, Grammar.Accepts, satisfying, Grammar.read?_single]
    exact congrArg Option.isSome (if_pos isLeaf)
  have ofLeaf : plainLeaf.Takes [word] := leaf.map _
  exact ofLeaf.ofSecond

theorem takes_array (takes : typeExpr.Takes words) {word : Word} (isLeaf : isPlainLeaf word.1 = true) :
    sequenceType.Takes
      (Word.mark .openBracket :: (words ++ [Word.mark .semicolon, word] ++ [Word.mark .closeBracket])) := by
  have length : Takes (Grammar.several treeInStatement) ([word] ++ []) :=
    .sequence ((takes_treeInStatement isLeaf).map _) .nil
  have whole : sequenceType.Takes _ :=
    takes_within (.sequence (takes.map _) (.some (.sequence (takes_mark .semicolon) length))) .bracket
  exact whole

theorem takes_path (ofFirst : pathSegment.Takes words)
    (ofRest : Takes (Grammar.many (mark .pathSeparator *> pathSegment)) words') : pathType.Takes (words ++ words') := by
  have whole : pathType.Takes ([] ++ _) := .map (.sequence .none (.sequence (ofFirst.map _) ofRest)) _
  exact whole

theorem takes_bounded (kind : BoundedKind) (ofFirst : bound.Takes words)
    (ofRest : Takes (Grammar.many (mark .plus *> bound)) words') :
    typeRule.Takes (reserved kind.keyword :: (words ++ words')) := by
  have whole : (boundedType kind kind.keyword).Takes ([_] ++ _) :=
    .map (.sequence (takes_word kind.keyword) (.sequence (ofFirst.map _) ofRest)) _
  cases kind with
  | impl => exact whole.ofFirst.ofSecond.ofSecond.ofSecond.ofSecond.ofSecond
  | dyn => exact whole.ofFirst.ofSecond.ofSecond.ofSecond.ofSecond.ofSecond.ofSecond

theorem takes_typeArguments (takes : (commaList typeArgument).Takes words) :
    typeArguments.Takes (Word.mark .less :: (words ++ [Word.mark .greater])) := by
  have whole : typeArguments.Takes ([] ++ _) :=
    .sequence .none (.sequence (.sequence (takes_mark .less) takes) (takes_mark .greater))
  exact whole

theorem takes_plain (name : String) : pathSegment.Takes [Word.ident name] := by
  have whole : pathSegment.Takes ([_] ++ []) := .ofFirst (.sequence ((takes_ident name).map _) .none)
  exact whole

theorem takes_generic (name : String) (takes : typeArguments.Takes words) :
    pathSegment.Takes (Word.ident name :: words) := by
  have whole : pathSegment.Takes ([_] ++ _) := .ofFirst (.sequence ((takes_ident name).map _) takes.some)
  exact whole

theorem takes_call (name : String) (takes : (commaList typeExpr).Takes words) (ofOutput : Takes (Grammar.optional output) words') :
    pathSegment.Takes (Word.ident name :: Word.mark .openParen :: (words ++ Word.mark .closeParen :: words')) := by
  have whole : pathSegment.Takes ([_] ++ _ ++ _) :=
    .ofSecond (.sequence (.sequence ((takes_ident name).map _) (takes_within takes .paren)) ofOutput)
  simpa [Delimiter.opening, Delimiter.closing] using whole

theorem takes_commaList {rule : Rule TypeExpr} (ofFirst : rule.Takes words)
    (ofRest : Takes (Grammar.many (mark .comma *> rule)) words') (trailing : Bool) :
    (commaList rule).Takes (words ++ words' ++ perhaps trailing (Word.mark .comma)) :=
  .ofFirst (.sequence (.sequence (ofFirst.map _) ofRest) (takes_perhaps (takes_mark .comma) trailing))

theorem takes_lifetimeExpr (name : String) : lifetimeExpr.Takes [Word.lifetime name] := (takes_lifetime name).map _

theorem takes_noItems (rule : Rule TypeExpr) : (commaList rule).Takes [] := by
  intro tokens same
  obtain rfl := List.map_eq_nil_iff.mp same
  exact Grammar.Accepts.ofSecond rfl

end Types

/-- The rule of the members of a list. -/
def listed : ListKind → Rule TypeExpr
  | .types => typeExpr
  | .arguments => typeArgument

end Rule

open Rule

/-- The grammar accepts the words that a part is rendered with, and perhaps a comma behind some members of a list. -/
def Part.IsTaken : (part : Part) → part.Meaning → Prop
  | type, spine => openType.Takes (Part.words .type spine)
  | path, spine => pathType.Takes (Part.words .path spine)
  | segment, spine => pathSegment.Takes (Part.words .segment spine)
  | bound, spine => Rule.bound.Takes (Part.words .bound spine)
  | item kind, found => (listed kind).Takes found.words
  | items kind, types => ∀ trailing : Bool, (trailing = true → types ≠ []) →
      (commaList (listed kind)).Takes (joined .comma (types.map TypeExpr.words) ++ perhaps trailing (.mark .comma))
  | itemsBehind kind, types =>
    Rule.Takes (Grammar.many (Rule.mark .comma *> listed kind)) (Part.words (.itemsBehind kind) types)
  | links .path, suffixes =>
    Rule.Takes (Grammar.many (Rule.mark .pathSeparator *> pathSegment)) (suffixes.flatMap Suffix.words)
  | links .bounds, suffixes =>
    Rule.Takes (Grammar.many (Rule.mark .plus *> Rule.bound)) (suffixes.flatMap Suffix.words)
  | tree, _ => True
  | trees, _ => True

theorem isPlainLeaf_constant (text : String) : isPlainLeaf (constant text).1 = true := by
  unfold constant name
  split
  · rfl
  · split <;> rfl

namespace Writes

open Spine (IsSound)

/-- The grammar accepts the words that a plain part is rendered with. -/
theorem taken {part : Part} {words : List Word} {found : part.Meaning} (writes : Writes part words found)
    (plain : part.IsPlain found) : part.IsTaken found := by
  induction writes with
  | path _ step => exact takes_openType (step plain).ofFirst
  | @reference life mutable _ target _ step =>
    have whole := takes_openType (takes_reference (step plain) life mutable).ofFirst.ofSecond
    simpa [Part.IsTaken, Part.words, Spine.map, TypeExpr.words_reference] using whole
  | pointer mutable _ step => exact takes_openType (takes_pointer (step plain) mutable).ofFirst.ofSecond.ofSecond
  | @tuple _ elements _ step =>
    have several : decide (elements.length = 1) = true → elements ≠ [] := by
      rintro one rfl
      cases one
    have inside := step (TypeExpr.allPlain_iff.mp plain.1) (elements.length = 1) several
    have whole := takes_openType (((takes_within inside .paren).map TypeExpr.tuple).map Spine.single).ofFirst.ofSecond.ofSecond.ofSecond
    simpa [Part.IsTaken, Part.words, Spine.single, TypeExpr.words_tuple, Delimiter.opening, Delimiter.closing] using whole
  | slice _ step =>
    have whole := takes_openType ((takes_slice (step plain.1)).map Spine.single).ofFirst.ofSecond.ofSecond.ofSecond.ofSecond
    simpa [Part.IsTaken, Part.words, Spine.single, TypeExpr.words] using whole
  | @array _ _ element tree trees _ _ ofElement =>
    have inside := takes_array (ofElement plain.1.1) (isPlainLeaf_constant (TokenTree.renderAll (tree :: trees)))
    have whole := takes_openType (inside.map Spine.single).ofFirst.ofSecond.ofSecond.ofSecond.ofSecond
    simpa [Part.IsTaken, Part.words, Spine.single, TypeExpr.words] using whole
  | bounded kind _ _ ofFirst ofRest =>
    obtain ⟨ofSuffixes, ofLinks⟩ := List.forall_mem_append.mp plain.2
    have whole := takes_openType (takes_bounded kind (ofFirst ⟨plain.1.1, ofSuffixes⟩) (ofRest ofLinks))
    simpa [Part.IsTaken, Part.words, Spine.map, Spine.append, TypeExpr.words_bounded, joined] using whole
  | never => exact takes_openType ((takes_mark .bang).map _).ofSecond.ofSecond.ofSecond.ofSecond.ofSecond.ofSecond.ofSecond
  | segments rooted _ _ ofFirst ofRest =>
    obtain ⟨ofSuffixes, ofLinks⟩ := List.forall_mem_append.mp plain.2
    have whole := takes_path (ofFirst ⟨plain.1.1, ofSuffixes⟩) (ofRest ofLinks)
    simpa [Part.IsTaken, Part.words, Spine.map, Spine.append, TypeExpr.words_path, joined] using whole
  | plain name => exact takes_plain name
  | @generic name separated _ arguments _ step =>
    have ofArguments := step (TypeExpr.allPlain_iff.mp plain.1) false (absurd · Bool.false_ne_true)
    cases arguments with
    | nil => exact takes_plain name
    | cons first rest =>
      have whole := takes_generic name (takes_typeArguments ofArguments)
      simpa [Part.IsTaken, Part.words, Spine.single, PathSegment.words_plain, perhaps] using whole
  | call name _ step =>
    have whole := takes_call name (step (TypeExpr.allPlain_iff.mp plain.1.1) false (absurd · Bool.false_ne_true)) .none
    simpa [Part.IsTaken, Part.words, Spine.single, PathSegment.words_call, PathSegment.wordsOfOutput, perhaps] using whole
  | output name _ _ ofInputs ofOutput =>
    have ofInputs := ofInputs (TypeExpr.allPlain_iff.mp plain.1.1) false (absurd · Bool.false_ne_true)
    have ofOutput : Rule.output.Takes _ := .sequence (takes_mark .arrow) (ofOutput ⟨plain.1.2, plain.2⟩)
    have whole := takes_call name ofInputs ofOutput.some
    simpa [Part.IsTaken, Part.words, Spine.map, PathSegment.words_call, PathSegment.wordsOfOutput, perhaps] using whole
  | pathBound _ step => exact (step plain).ofFirst
  | lifetimeBound name => exact ((takes_lifetimeExpr name).map _).ofFirst.ofSecond
  | maybe _ step =>
    have whole : Rule.bound.Takes ([_] ++ _) := (Takes.map (.sequence (takes_mark .question) (step plain)) _).ofFirst.ofSecond.ofSecond
    exact whole
  | grouped => exact plain.1.elim
  | settled kind ofType step =>
    have sound := ofType.sound
    have takes := step (IsSound.isPlain_settle sound |>.mp plain)
    rw [Part.IsTaken, IsSound.words_settle sound]
    cases kind with
    | types => exact takes.map _
    | arguments => exact (takes.map _).ofFirst
  | lifetime name => exact (takes_lifetimeExpr name).ofFirst.ofSecond
  | binding name _ step =>
    have whole : typeArgument.Takes ([_] ++ _) :=
      (Takes.sequence ((takes_ident name).map _) (.sequence (takes_mark .equals) (step plain))).ofFirst.ofSecond.ofSecond
    exact whole
  | number isNumber =>
    rw [Part.IsTaken, TypeExpr.words, isNumber]
    exact ((takes_terminal _).map _).ofFirst.ofSecond.ofSecond.ofSecond
  | block position => exact (IsConstant.not_group _ _ _ plain).elim
  | noItems kind =>
    rintro (_ | _) proper
    · exact takes_noItems _
    · exact absurd rfl (proper rfl)
  | someItems trailing _ _ ofFirst ofRest =>
    obtain ⟨plainFirst, plainRest⟩ := List.forall_mem_cons.mp plain
    intro trailing _
    have whole := takes_commaList (ofFirst plainFirst) (ofRest plainRest) trailing
    simpa [Part.words, joined, List.flatMap_map] using whole
  | noItemsBehind kind => exact .nil
  | moreItems _ _ ofFirst ofRest =>
    obtain ⟨plainFirst, plainRest⟩ := List.forall_mem_cons.mp plain
    have ofFirst : Rule.Takes (Rule.mark .comma *> listed _) _ := .sequence (takes_mark .comma) (ofFirst plainFirst)
    exact ofFirst.cons (by simp) (ofRest plainRest)
  | noLinks kind => cases kind <;> exact .nil
  | moreSegments _ _ ofFirst ofRest =>
    obtain ⟨ofSuffixes, ofLinks⟩ := List.forall_mem_append.mp plain
    obtain ⟨plainSegment, plainSuffixes⟩ := List.forall_mem_cons.mp ofSuffixes
    have ofFirst : Rule.Takes (Rule.mark .pathSeparator *> pathSegment) _ :=
      .sequence (takes_mark .pathSeparator) (ofFirst ⟨plainSegment, plainSuffixes⟩)
    have whole := ofFirst.cons (by simp) (ofRest ofLinks)
    simpa [Part.IsTaken, Part.words, Spine.toSuffixes, Suffix.words] using whole
  | moreBounds _ _ ofFirst ofRest =>
    obtain ⟨ofSuffixes, ofLinks⟩ := List.forall_mem_append.mp plain
    obtain ⟨plainBound, plainSuffixes⟩ := List.forall_mem_cons.mp ofSuffixes
    have ofFirst : Rule.Takes (Rule.mark .plus *> Rule.bound) _ :=
      .sequence (takes_mark .plus) (ofFirst ⟨plainBound, plainSuffixes⟩)
    have whole := ofFirst.cons (by simp) (ofRest ofLinks)
    simpa [Part.IsTaken, Part.words, Spine.toSuffixes, Suffix.words] using whole
  | _ => trivial

end Writes

end Exposure
