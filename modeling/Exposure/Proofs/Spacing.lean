import Exposure.Proofs.Writing

/-!
# Written texts without their blanks

Rendering puts the words of a type, and the tokens of a token tree, one behind another with blanks at most between them:
what is left of the text without its blanks is what is left of the words.
-/

namespace Exposure

namespace Text

/-- The characters of a text that are no blanks. -/
def solid (text : String) : List Char := text.toList.filter (!isBlank ·)

@[simp] theorem solid_append (one two : String) : solid (one ++ two) = solid one ++ solid two := by
  rw [solid, String.toList_append, List.filter_append, solid, solid]

theorem filter_trimEnds (chars : List Char) : (trimEnds isBlank chars).filter (!isBlank ·) = chars.filter (!isBlank ·) := by
  have front (chars : List Char) : (chars.dropWhile isBlank).filter (!isBlank ·) = chars.filter (!isBlank ·) := by
    induction chars with
    | nil => rfl
    | cons first rest step => cases blank : isBlank first <;> simp [blank, step]
  rw [trimEnds, dropTail, List.filter_reverse, front, ← List.filter_reverse, List.reverse_reverse, front]

/-- Blanks at the ends of a text do not count. -/
@[simp] theorem solid_trim (text : String) : solid (trim text) = solid text := by
  rw [solid, trim, String.toList_ofList, filter_trimEnds, solid]

end Text

namespace Word

/-- The characters of some words, one behind another, that are no blanks. -/
def solid (words : List Word) : List Char := words.flatMap fun word => Text.solid word.2

@[simp] theorem solid_nil : solid [] = [] := rfl

@[simp] theorem solid_cons (word : Word) (words : List Word) : solid (word :: words) = Text.solid word.2 ++ solid words := rfl

@[simp] theorem solid_append (words words' : List Word) : solid (words ++ words') = solid words ++ solid words' :=
  List.flatMap_append

end Word

/-- Blanks aside, a text is some words, one behind another. -/
def Spells (text : String) (words : List Word) : Prop := Text.solid text = Word.solid words

namespace Spells

theorem append {one two : String} {words words' : List Word} (ofOne : Spells one words) (ofTwo : Spells two words') :
    Spells (one ++ two) (words ++ words') := by
  rw [Spells, Text.solid_append, ofOne, ofTwo, Word.solid_append]

theorem blank {text : String} {words : List Word} (spells : Spells text words) : Spells (" " ++ text) words := by
  rw [Spells, Text.solid_append, spells]
  rfl

theorem trim {text : String} {words : List Word} (spells : Spells text words) : Spells (Text.trim text) words :=
  (Text.solid_trim text).trans spells

theorem none : Spells "" [] := rfl

theorem gap : Spells " " [] := rfl

/-- A word spells itself. -/
theorem word (word : Word) : Spells word.2 [word] := (List.append_nil _).symm

/-- Texts with a mark between neighbours, whatever blanks stand around it. -/
theorem joined {separator : Punctuation} {between : String} (isMark : Spells between [Word.mark separator])
    {texts : List String} {lists : List (List Word)} (each : List.Forall₂ Spells texts lists) :
    Spells (between.intercalate texts) (Word.joined separator lists) := by
  induction each with
  | nil => rfl
  | @cons text words texts lists first others step =>
    cases others with
    | nil => simpa [Word.joined] using first
    | @cons text' words' texts lists second others =>
      rw [String.intercalate_cons_cons, String.append_assoc]
      exact first.append (isMark.append step)

end Spells

/-! Token trees -/

namespace TokenTree

/-- What is written of the token trees of a part. -/
def IsSpelled : (part : Part) → List Word → part.Meaning → Prop
  | .tree, words, tree => Spells tree.render words
  | .trees, words, trees => ∀ afterWord, Spells (renderFrom afterWord trees) words
  | _, _, _ => True

theorem isSpelled_of_writes {part : Part} {words : List Word} {found : part.Meaning} (writes : Writes part words found) :
    IsSpelled part words found := by
  induction writes with
  | @leaf word leaf isLeaf text =>
    have spells := Spells.word word
    rw [← text] at spells
    exact spells
  | group delimiter position _ step =>
    have opening : Spells delimiter.opening.text [Word.mark delimiter.opening] := .word (Word.mark delimiter.opening)
    exact (opening.append (step false).trim).append (.word (.mark delimiter.closing))
  | noTrees => exact fun _ => rfl
  | @moreTrees words words' first rest _ _ ofFirst ofRest =>
    intro afterWord
    have perhaps (condition : Bool) : Spells (if condition then " " else "") [] := by cases condition <;> rfl
    have spells := (((perhaps (afterWord && first.isWord)).append ofFirst).append (perhaps first.isComma)).append
      (ofRest first.isWord)
    rwa [List.nil_append, List.append_nil] at spells
  | _ => trivial

/-- Token trees are written as their words. -/
theorem renderAll_spells {words : List Word} {trees : List TokenTree} (writes : Writes .trees words trees) :
    Spells (renderAll trees) words := (isSpelled_of_writes writes false).trim

end TokenTree

/-! Types -/

namespace TypeExpr

theorem comma_spells : Spells ", " [Word.mark .comma] := rfl

theorem arrow_spells : Spells " -> " [Word.mark .arrow] := rfl

theorem equals_spells : Spells " = " [Word.mark .equals] := rfl

theorem semicolon_spells : Spells "; " [Word.mark .semicolon] := rfl

theorem plus_spells : Spells " + " [Word.mark .plus] := rfl

mutual

/-- A type is written as its words. -/
theorem render_spells : (type : TypeExpr) → Spells type.render type.words
  | path segments => .joined (.word (Word.mark .pathSeparator)) (renderSegments_spells segments)
  | reference life mutable target => by
    have ofTarget := render_spells target
    have opening : Spells "&" [Word.mark .ampersand] := rfl
    have ofMutable : Spells (if mutable then "mut " else "") (if mutable then [.reserved .mutWord] else []) := by
      cases mutable <;> rfl
    have ofLife : Spells (match life with | some name => name ++ " " | none => "")
        (match life with | some name => [.lifetime name] | none => []) := by
      cases life with
      | none => rfl
      | some name => exact (Spells.word (.lifetime name)).append Spells.gap
    have whole := ((opening.append ofLife).append ofMutable).append ofTarget
    cases life <;> simpa [render, words] using whole
  | pointer mutable target => by
    have opening : Spells (if mutable then "*mut " else "*const ")
        [.mark .star, .reserved (if mutable then .mutWord else .constWord)] := by
      cases mutable <;> rfl
    exact opening.append (render_spells target)
  | tuple elements => by
    have opening : Spells "(" [Word.mark .openParen] := rfl
    have inside := opening.append (.joined comma_spells (renderAll_spells elements))
    have grouped {comma : String} {ofComma : List Word} (behind : Spells comma ofComma) :
        Spells ("(" ++ ", ".intercalate (renderAll elements) ++ comma ++ ")")
          (.mark .openParen :: (Word.joined .comma (wordsOfAll elements) ++ ofComma ++ [.mark .closeParen])) :=
      (inside.append behind).append (.word (Word.mark .closeParen))
    rcases elements with _ | ⟨first, _ | ⟨second, rest⟩⟩
    · exact grouped .none
    · exact grouped (.word (Word.mark .comma))
    · exact grouped .none
  | slice element => by
    have opening : Spells "[" [Word.mark .openBracket] := rfl
    exact (opening.append (render_spells element)).append (.word (Word.mark .closeBracket))
  | array element length => by
    have opening : Spells "[" [Word.mark .openBracket] := rfl
    have ofLength := Spells.word (.constant length)
    rw [Word.constant_text] at ofLength
    have inside := (opening.append (render_spells element)).append semicolon_spells
    have whole := (inside.append ofLength).append (.word (Word.mark .closeBracket))
    simpa [render, words, Word.mark, Punctuation.text] using whole
  | bounded kind bounds => by
    have opening : Spells (kind.text ++ " ") [.reserved kind.keyword] := by cases kind <;> rfl
    exact opening.append (.joined plus_spells (renderAll_spells bounds))
  | never => .word (Word.mark .bang)
  | lifetime name => .word (Word.lifetime name)
  | binding name value =>
    ((Spells.word (Word.ident name)).append equals_spells).append (render_spells value)
  | const text => by
    have spells := Spells.word (.constant text)
    rwa [Word.constant_text] at spells
  | maybe bound => (Spells.word (Word.mark .question)).append (render_spells bound)
  | grouped bound => render_spells bound

theorem renderAll_spells : (types : List TypeExpr) → List.Forall₂ Spells (renderAll types) (wordsOfAll types)
  | [] => .nil
  | first :: rest => .cons (render_spells first) (renderAll_spells rest)

theorem renderSegment_spells : (segment : PathSegment) → Spells (renderSegment segment) segment.words
  | .plain name [] => .word (Word.ident name)
  | .plain name (first :: rest) => by
    have opening := (Spells.word (Word.ident name)).append (.word (Word.mark .less))
    exact (opening.append (.joined comma_spells (renderAll_spells (first :: rest)))).append (.word (Word.mark .greater))
  | .call name inputs output => by
    have opening := (Spells.word (Word.ident name)).append (.word (Word.mark .openParen))
    have inside := (opening.append (.joined comma_spells (renderAll_spells inputs))).append (.word (Word.mark .closeParen))
    have whole := inside.append (renderOutput_spells output)
    simpa [renderSegment, PathSegment.words, Word.ident, Word.mark, Punctuation.text] using whole

theorem renderOutput_spells : (output : Option TypeExpr) → Spells (renderOutput output) (PathSegment.wordsOfOutput output)
  | none => rfl
  | some output => arrow_spells.append (render_spells output)

theorem renderSegments_spells : (segments : List PathSegment) →
    List.Forall₂ Spells (renderSegments segments) (PathSegment.wordsOfAll segments)
  | [] => .nil
  | first :: rest => .cons (renderSegment_spells first) (renderSegments_spells rest)

end

end TypeExpr

end Exposure
