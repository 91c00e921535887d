import Exposure.Proofs.Readable
import Exposure.Proofs.Unambiguity

/-!
Types read back: the text that a plain type is rendered as is read as a type again, and as that type.
-/

namespace Exposure

open Lexeme

namespace TypeExpr

/-- A type is read from some of the tokens of a text, one behind another. -/
structure StandsIn (type : TypeExpr) (text : String) : Prop where
  complete : (Lexing.ofText text).failure = none
  read : ∃ tokens, tokens <:+: (Lexing.ofText text).tokens ∧ Rule.typeExpr.read? tokens = some type

/-- The type that a whole text is read as. -/
def ofText? (text : String) : Option TypeExpr :=
  if (Lexing.ofText text).failure.isNone then Rule.typeExpr.read? (Lexing.ofText text).tokens else none

end TypeExpr

/-- The words of the tokens of a text are words of the language. -/
theorem Lexing.isGenuine_of_mem {text : String} (complete : (Lexing.ofText text).failure = none) :
    ∀ token ∈ (Lexing.ofText text).tokens, token.word.IsGenuine := by
  obtain ⟨pieces, covers, lexemes⟩ := exists_pieces complete
  have tokens : (Lexing.ofText text).tokens = tokensFrom .start pieces := by
    rw [Lexing.tokens, Lexing.ofText, lexemes, tokensFrom]
  rw [tokens]
  exact isGenuine_of_pieces covers .start

/-- A text with nothing behind it is lexed as its words. -/
theorem Lexes.ofText {text : String} {words : List Word} (lexes : Lexes text words) :
    (Lexing.ofText text).failure = none ∧ (Lexing.ofText text).tokens.map Token.word = words := by
  obtain ⟨pieces, covers, same⟩ := lexes Breaks.nil (.nil [])
  rw [List.append_nil] at covers
  have lexed : Lexing.ofText text = ⟨place .start pieces, none⟩ := scan_of_pieces covers .start
  rw [lexed]
  refine ⟨rfl, ?_⟩
  have isWords := map_word_tokensFrom .start pieces
  rw [same] at isWords
  exact isWords.trans (List.append_nil words)

namespace TypeExpr

/-- What stands in a text is written with words of the language. -/
theorem StandsIn.writes {type : TypeExpr} {text : String} (stands : type.StandsIn text) :
    ∃ words, AllGenuine words ∧ Writes (.item .types) words type := by
  obtain ⟨tokens, inText, read⟩ := stands.read
  have genuine : ∀ token ∈ tokens, token.word.IsGenuine := fun token member =>
    Lexing.isGenuine_of_mem stands.complete token (inText.subset member)
  exact ⟨tokens.map Token.word, List.forall_mem_map.mpr genuine, Rule.writes_of_read? genuine read⟩

/-- The text that a type is rendered as is lexed as the words of the type. -/
theorem lexes_of_writes {type : TypeExpr} {words : List Word} (writes : Writes (.item .types) words type)
    (plain : type.IsPlain) (genuine : AllGenuine words) : Lexes type.render type.words := render_lexes type (writes.genuine plain genuine)

/-- A type of plain constants and bounds is rendered as a text that is read as the same type. -/
theorem ofText?_render {type : TypeExpr} {text : String} (stands : type.StandsIn text) (plain : type.IsPlain) :
    ofText? type.render = some type := by
  obtain ⟨words, genuine, writes⟩ := stands.writes
  obtain ⟨complete, isWords⟩ := (lexes_of_writes writes plain genuine).ofText
  obtain ⟨found, read⟩ := Option.isSome_iff_exists.mp (writes.taken plain _ isWords)
  have again : Writes (.item .types) type.words found := by
    rw [← isWords]
    exact Rule.writes_of_read? (Lexing.isGenuine_of_mem complete) read
  have same : found = type := again.eq_of_words (writes.shaped plain)
  rw [ofText?, complete, Option.isNone_none, if_pos rfl, ← same]
  rwa [← same] at read

theorem ofText?_render_boundsBehindOutput : ∃ type, type.StandsIn "dyn Fn([A;4],)->&B+C" ∧ type.IsPlain ∧
    type.render = "dyn Fn([A; 4]) -> &B + C" ∧ ofText? type.render = some type := by
  have read : (ofText? "dyn Fn([A;4],)->&B+C").any (fun type =>
      decide (type.IsPlain ∧ type.render = "dyn Fn([A; 4]) -> &B + C")) = true := by
    decide +kernel
  obtain ⟨type, found, holds⟩ := (Option.any_eq_true _ _).mp read
  obtain ⟨plain, rendered⟩ := of_decide_eq_true holds
  have complete : (Lexing.ofText "dyn Fn([A;4],)->&B+C").failure = none := by decide +kernel
  rw [ofText?, complete, Option.isNone_none, if_pos rfl] at found
  have stands : type.StandsIn "dyn Fn([A;4],)->&B+C" := ⟨complete, _, List.infix_rfl, found⟩
  exact ⟨type, stands, plain, rendered, ofText?_render stands plain⟩

end TypeExpr

end Exposure
