import Exposure.Proofs.Isolation
import Exposure.Proofs.Makings

/-!
# Where the surrounding type is still named

A text mentions a word if the word stands in it with no letter, digit or underscore beside it. The signature of a type under
an owner has the owner in the place of every bare path to the surrounding type; every other mention of that type is kept:
in a longer path, in a path with arguments, in the name of a binding, and in the text of a constant.
-/

namespace Exposure

open Lexeme (continuesIdent)

/-! Texts that mention the surrounding type -/

/-- A text mentions the surrounding type. -/
def MentionsSelf (text : String) : Prop := Text.Mentions "Self".toList text.toList

/-- A text of characters that belong to no word. -/
structure IsSeparator (text : String) : Prop where
  proper : text.toList.isEmpty = false
  marks : text.toList.all (!continuesIdent ·) = true

/-- A text that lacks the first letter of the name of the surrounding type, and ends as no word does. -/
structure IsIntroduction (text : String) : Prop where
  noLetter : text.toList.contains 'S' = false
  ends : text.toList.getLast?.all (!continuesIdent ·) = true

theorem IsSeparator.mark {text : String} (isSeparator : IsSeparator text) {char : Char} (inText : char ∈ text.toList) :
    continuesIdent char = false := by
  simpa using List.all_eq_true.mp isSeparator.marks char inText

theorem IsSeparator.isIntroduction {text : String} (isSeparator : IsSeparator text) : IsIntroduction text where
  noLetter := by
    rw [List.contains_eq_mem, decide_eq_false_iff_not]
    exact fun inside => Bool.false_ne_true (isSeparator.mark inside).symm
  ends := by
    rw [Option.all_eq_true]
    exact fun char last => by simp [isSeparator.mark (List.mem_of_getLast? last)]

theorem IsIntroduction.last {text : String} (isIntroduction : IsIntroduction text) :
    ∀ char ∈ text.toList.getLast?, continuesIdent char = false := by
  simpa [Option.all_eq_true] using isIntroduction.ends

namespace MentionsSelf

open Text.Mentions (Apart)

variable {one two separator : String}

theorem not_of_contains {text : String} (noLetter : text.toList.contains 'S' = false) : ¬ MentionsSelf text := by
  intro mentions
  have inside : 'S' ∈ text.toList := mentions.mem List.mem_cons_self
  simp_all

theorem append (apart : Apart one.toList two.toList) : MentionsSelf (one ++ two) ↔ MentionsSelf one ∨ MentionsSelf two := by
  rw [MentionsSelf, String.toList_append]
  exact Text.Mentions.append (List.cons_ne_nil 'S' _) (List.all_eq_true.mp rfl) apart

theorem introduced (isIntroduction : IsIntroduction one) : MentionsSelf (one ++ two) ↔ MentionsSelf two := by
  rw [append (.inl isIntroduction.last), or_iff_right (not_of_contains isIntroduction.noLetter)]

theorem opened (isSeparator : IsSeparator separator) : MentionsSelf (separator ++ two) ↔ MentionsSelf two :=
  introduced isSeparator.isIntroduction

theorem closed (isSeparator : IsSeparator separator) : MentionsSelf (one ++ separator) ↔ MentionsSelf one := by
  rw [append (.inr fun char head => isSeparator.mark (List.mem_of_head? head)),
    or_iff_left (not_of_contains isSeparator.isIntroduction.noLetter)]

theorem separated (isSeparator : IsSeparator separator) :
    MentionsSelf (one ++ separator ++ two) ↔ MentionsSelf one ∨ MentionsSelf two := by
  rw [append (.inl fun char last => ?_), closed isSeparator]
  rw [String.toList_append, List.getLast?_append_of_ne_nil _ (by simpa using isSeparator.proper)] at last
  exact isSeparator.mark (List.mem_of_getLast? last)

theorem intercalate (isSeparator : IsSeparator separator) {texts : List String} :
    MentionsSelf (separator.intercalate texts) ↔ ∃ text ∈ texts, MentionsSelf text := by
  induction texts with
  | nil => simpa using not_of_contains rfl
  | cons first rest step =>
    cases rest with
    | nil => simp
    | cons second others =>
      rw [String.intercalate_cons_cons, separated isSeparator, step]
      exact (List.exists_mem_cons_iff ..).symm

end MentionsSelf

namespace Lexing

/-- A text mentions the surrounding type if that is one of its tokens. -/
theorem mentionsSelf_of_mem {text : String} (member : "Self" ∈ (ofText text).tokens.map (·.text)) : MentionsSelf text := by
  obtain ⟨token, isToken, spelled⟩ := List.mem_map.mp member
  obtain ⟨lexeme, isLexeme, found⟩ := List.mem_filterMap.mp isToken
  obtain ⟨terminal, -, rfl⟩ := Option.map_eq_some_iff.mp found
  have ofText : lexeme.text = "Self".toList := by rw [← spelled, String.toList_ofList]
  have isWord : lexeme.kind = some .ident := by
    obtain ⟨input, length, first, taken⟩ := exists_first?_of_mem_scan isLexeme
    cases input with
    | nil => cases first
    | cons letter others =>
      obtain rfl : 'S' = letter := (List.cons.inj (ofText.symm.trans taken)).1
      obtain ⟨_, ofWord⟩ := Lexeme.exists_ident? (show Lexeme.beginsIdent 'S' = true from rfl) others
      have begins := Lexeme.first?_letter rfl (Lexeme.rawString?_of_ne others (by decide) (by decide))
        (Lexeme.string?_of_ne others (by decide) (by decide)) (Lexeme.char?_of_ne others (by decide) (by decide)) ofWord
      exact (Prod.ext_iff.mp (Option.some.inj (first.symm.trans begins))).1
  have mentions : Text.Mentions lexeme.text ([] ++ text.toList) :=
    mentions_of_mem_scan (.inl rfl) isLexeme isWord (by simp [ofText])
  rwa [ofText] at mentions

end Lexing

/-! Types that keep it -/

mutual

/-- A type has the name of the surrounding type somewhere but in a bare path to it. -/
def TypeExpr.KeepsSelf : TypeExpr → Prop
  | .path segments => TypeExpr.isSelf segments = false ∧ PathSegment.AnyKeepsSelf segments
  | .reference life _ target => (∃ name, life = some name ∧ MentionsSelf name) ∨ target.KeepsSelf
  | .pointer _ target => target.KeepsSelf
  | .tuple elements => TypeExpr.AnyKeepsSelf elements
  | .slice element => element.KeepsSelf
  | .array element length => element.KeepsSelf ∨ MentionsSelf length
  | .bounded _ bounds => TypeExpr.AnyKeepsSelf bounds
  | .never => False
  | .lifetime name => MentionsSelf name
  | .binding name value => MentionsSelf name ∨ value.KeepsSelf
  | .const text => MentionsSelf text
  | .maybe bound => bound.KeepsSelf
  | .grouped bound => bound.KeepsSelf

/-- One of some types keeps the name. -/
def TypeExpr.AnyKeepsSelf : List TypeExpr → Prop
  | [] => False
  | first :: rest => first.KeepsSelf ∨ TypeExpr.AnyKeepsSelf rest

/-- A segment of a longer path has the name, or its arguments, inputs or output keep it. -/
def PathSegment.KeepsSelf : PathSegment → Prop
  | .plain name arguments => MentionsSelf name ∨ TypeExpr.AnyKeepsSelf arguments
  | .call name inputs output =>
    MentionsSelf name ∨ TypeExpr.AnyKeepsSelf inputs ∨ PathSegment.OutputKeepsSelf output

/-- The output of a call keeps the name. -/
def PathSegment.OutputKeepsSelf : Option TypeExpr → Prop
  | none => False
  | some output => output.KeepsSelf

/-- One of some segments keeps the name. -/
def PathSegment.AnyKeepsSelf : List PathSegment → Prop
  | [] => False
  | first :: rest => first.KeepsSelf ∨ PathSegment.AnyKeepsSelf rest

end

namespace TypeExpr

variable {owner : String}

mutual

/-- Under an owner that does not name the surrounding type, a type names it exactly if it keeps the name. -/
theorem mentionsSelf_render (plain : ¬ MentionsSelf owner) : (type : TypeExpr) →
    (MentionsSelf (type.replaceSelf owner).render ↔ type.KeepsSelf)
  | path segments => by
    rw [replaceSelf, KeepsSelf]
    cases bare : isSelf segments with
    | true => simpa [named, render, renderSegments, renderSegment] using plain
    | false =>
      rw [if_neg Bool.false_ne_true, render, MentionsSelf.intercalate ⟨rfl, rfl⟩, mentionsSelf_renderSegments plain]
      exact (and_iff_right rfl).symm
  | reference life mutable target => by
    have ofTarget := mentionsSelf_render plain target
    have behind : MentionsSelf ((if mutable then "mut " else "") ++ (target.replaceSelf owner).render) ↔ target.KeepsSelf :=
      (MentionsSelf.introduced (by cases mutable <;> exact ⟨rfl, rfl⟩)).trans ofTarget
    rw [KeepsSelf, ← behind]
    cases life with
    | none =>
      have written : ((reference none mutable target).replaceSelf owner).render =
          "&" ++ ((if mutable then "mut " else "") ++ (target.replaceSelf owner).render) := String.append_assoc
      rw [written, MentionsSelf.opened ⟨rfl, rfl⟩]
      exact (or_iff_right (by simp)).symm
    | some name =>
      have written : ((reference (some name) mutable target).replaceSelf owner).render =
          "&" ++ (name ++ " " ++ ((if mutable then "mut " else "") ++ (target.replaceSelf owner).render)) := by
        simp only [replaceSelf, render, String.append_assoc]
      rw [written, MentionsSelf.opened ⟨rfl, rfl⟩, MentionsSelf.separated ⟨rfl, rfl⟩]
      simp
  | pointer mutable target => by
    rw [replaceSelf, render, MentionsSelf.introduced (by cases mutable <;> exact ⟨rfl, rfl⟩)]
    exact mentionsSelf_render plain target
  | tuple elements => by
    have inside := (MentionsSelf.intercalate (⟨rfl, rfl⟩ : IsSeparator ", ")).trans (mentionsSelf_renderAll plain elements)
    have grouped {comma : String} (ofComma : comma = "" ∨ IsSeparator comma) :
        MentionsSelf ("(" ++ ", ".intercalate (renderAll (replaceAll owner elements)) ++ comma ++ ")") ↔
          AnyKeepsSelf elements := by
      rw [MentionsSelf.closed ⟨rfl, rfl⟩, ← inside]
      rcases ofComma with rfl | isSeparator
      · rw [String.append_empty, MentionsSelf.opened ⟨rfl, rfl⟩]
      · rw [MentionsSelf.closed isSeparator, MentionsSelf.opened ⟨rfl, rfl⟩]
    rcases elements with _ | ⟨first, _ | ⟨second, rest⟩⟩
    · exact grouped (.inl rfl)
    · exact grouped (.inr (⟨rfl, rfl⟩ : IsSeparator ","))
    · exact grouped (.inl rfl)
  | slice element => by
    rw [replaceSelf, render, MentionsSelf.closed ⟨rfl, rfl⟩, MentionsSelf.opened ⟨rfl, rfl⟩]
    exact mentionsSelf_render plain element
  | array element length => by
    rw [replaceSelf, render, MentionsSelf.closed ⟨rfl, rfl⟩, MentionsSelf.separated ⟨rfl, rfl⟩,
      MentionsSelf.opened ⟨rfl, rfl⟩, mentionsSelf_render plain element, KeepsSelf]
  | bounded kind bounds => by
    have ofKind : IsIntroduction (kind.text ++ " ") := by cases kind <;> exact ⟨rfl, rfl⟩
    rw [replaceSelf, render, MentionsSelf.introduced ofKind, MentionsSelf.intercalate ⟨rfl, rfl⟩]
    exact mentionsSelf_renderAll plain bounds
  | never => iff_of_false (@MentionsSelf.not_of_contains "!" rfl) id
  | lifetime _ => Iff.rfl
  | binding name value => by
    rw [replaceSelf, render, MentionsSelf.separated ⟨rfl, rfl⟩, mentionsSelf_render plain value, KeepsSelf]
  | const _ => Iff.rfl
  | maybe bound => by
    rw [replaceSelf, render, MentionsSelf.opened ⟨rfl, rfl⟩]
    exact mentionsSelf_render plain bound
  | grouped bound => mentionsSelf_render plain bound

theorem mentionsSelf_renderAll (plain : ¬ MentionsSelf owner) : (types : List TypeExpr) →
    ((∃ text ∈ renderAll (replaceAll owner types), MentionsSelf text) ↔ AnyKeepsSelf types)
  | [] => by simp [replaceAll, renderAll, AnyKeepsSelf]
  | first :: rest => by
    rw [replaceAll, renderAll, List.exists_mem_cons_iff, mentionsSelf_render plain first,
      mentionsSelf_renderAll plain rest, AnyKeepsSelf]

theorem mentionsSelf_renderSegment (plain : ¬ MentionsSelf owner) : (segment : PathSegment) →
    (MentionsSelf (renderSegment (replaceSegment owner segment)) ↔ segment.KeepsSelf)
  | .plain name [] => (or_iff_left id).symm
  | .plain name (first :: rest) => by
    have ofArguments := mentionsSelf_renderAll plain (first :: rest)
    rw [replaceSegment, PathSegment.KeepsSelf, ← ofArguments, ← MentionsSelf.intercalate (⟨rfl, rfl⟩ : IsSeparator ", ")]
    exact (MentionsSelf.closed ⟨rfl, rfl⟩).trans (MentionsSelf.separated ⟨rfl, rfl⟩)
  | .call name inputs output => by
    have ofInputs := mentionsSelf_renderAll plain inputs
    have ofOutput := mentionsSelf_renderOutput plain output
    rw [replaceSegment, renderSegment, PathSegment.KeepsSelf, ← ofInputs, ← ofOutput, MentionsSelf.separated ⟨rfl, rfl⟩,
      MentionsSelf.separated ⟨rfl, rfl⟩, MentionsSelf.intercalate ⟨rfl, rfl⟩, or_assoc]

theorem mentionsSelf_renderOutput (plain : ¬ MentionsSelf owner) : (output : Option TypeExpr) →
    (MentionsSelf (renderOutput (replaceOutput owner output)) ↔ PathSegment.OutputKeepsSelf output)
  | none => iff_of_false (@MentionsSelf.not_of_contains "" rfl) id
  | some output => by
    rw [replaceOutput, renderOutput, MentionsSelf.opened ⟨rfl, rfl⟩]
    exact mentionsSelf_render plain output

theorem mentionsSelf_renderSegments (plain : ¬ MentionsSelf owner) : (segments : List PathSegment) →
    ((∃ text ∈ renderSegments (replaceSegments owner segments), MentionsSelf text) ↔ PathSegment.AnyKeepsSelf segments)
  | [] => by simp [replaceSegments, renderSegments, PathSegment.AnyKeepsSelf]
  | first :: rest => by
    rw [replaceSegments, renderSegments, List.exists_mem_cons_iff, mentionsSelf_renderSegment plain first,
      mentionsSelf_renderSegments plain rest, PathSegment.AnyKeepsSelf]

end

/-- The signature of a type names the surrounding type exactly if the type keeps the name. -/
theorem mentionsSelf_signature (proper : owner ≠ "") (plain : ¬ MentionsSelf owner) (type : TypeExpr) :
    MentionsSelf (type.signature (some owner)) ↔ type.stripLifetimes.KeepsSelf := by
  rw [signature]
  simp only [String.isEmpty_iff, proper, if_false]
  exact mentionsSelf_render plain type.stripLifetimes

end TypeExpr

/-! Descriptors -/

/-- A signed text names the surrounding type exactly if it is the signature of a declared type, or of what a declared
result type stands for, that keeps the name. -/
theorem IsSigned.namesSelf_iff {owner : String} (proper : owner ≠ "") (plain : ¬ MentionsSelf owner)
    {types : List TypeExpr} {text : String} (signed : IsSigned (some owner) types text) :
    MentionsSelf text ↔ ∃ type ∈ types ++ types.map TypeExpr.unwrapResult,
      text = type.signature (some owner) ∧ type.stripLifetimes.KeepsSelf := by
  constructor
  · intro mentions
    cases signed with
    | owner isOwner => exact absurd (Option.some.inj isOwner ▸ mentions) plain
    | nothing => exact absurd mentions (@MentionsSelf.not_of_contains "()" rfl)
    | untyped => exact absurd mentions (MentionsSelf.not_of_contains rfl)
    | @type type member =>
      exact ⟨type, List.mem_append_left _ member, rfl, (TypeExpr.mentionsSelf_signature proper plain type).mp mentions⟩
    | @result type member =>
      exact ⟨type.unwrapResult, List.mem_append_right _ (List.mem_map_of_mem member), rfl,
        (TypeExpr.mentionsSelf_signature proper plain _).mp mentions⟩
  · rintro ⟨type, -, rfl, keeps⟩
    exact (TypeExpr.mentionsSelf_signature proper plain type).mpr keeps

namespace Expansion

/-- The types that the signatures of an expansion are written from: those of its item and of the functions associated with
it among some items, and what they stand for as results. -/
def writtenTypes (items : List Item) (expansion : Expansion) : List TypeExpr :=
  let declared := expansion.item.types ++ (associated items expansion.item).flatMap FunctionItem.types
  declared ++ declared.map TypeExpr.unwrapResult

/-- The signatures of an expansion are written from the types of its item and of the functions associated with it. -/
theorem exists_isSigned {text : String} {expansions : List Expansion} (run : ofText text = .ok expansions)
    {expansion : Expansion} (member : expansion ∈ expansions) :
    ∃ items, parse text = .ok items ∧ ∀ signature ∈ expansion.descriptor.signatures,
      IsSigned expansion.descriptor.owner? (expansion.item.types ++
        (associated (Item.flattenAll items) expansion.item).flatMap FunctionItem.types) signature := by
  simp only [ofText, Outcome.bind_eq_ok] at run
  obtain ⟨items, parsed, run⟩ := run
  obtain ⟨-, described, -⟩ := exists_item_of_mem run member
  exact ⟨items, parsed, (describes_of_describe described).isSigned⟩

/-- In an accepted text, a signature under an owner of another name has the name of the surrounding type for a token only if
it mentions that name, and mentions it exactly if it is written from a type that keeps the name. -/
theorem mentionsSelf_iff {text : String} {expansions : List Expansion} (run : ofText text = .ok expansions)
    {expansion : Expansion} (member : expansion ∈ expansions) {owner : String}
    (known : expansion.descriptor.owner? = some owner) (proper : owner ≠ "") (plain : ¬ MentionsSelf owner) :
    ∃ items, parse text = .ok items ∧ ∀ signature ∈ expansion.descriptor.signatures,
      ("Self" ∈ (Lexing.ofText signature).tokens.map (·.text) → MentionsSelf signature) ∧
        (MentionsSelf signature ↔ ∃ type ∈ expansion.writtenTypes (Item.flattenAll items),
          signature = type.signature (some owner) ∧ type.stripLifetimes.KeepsSelf) := by
  obtain ⟨items, parsed, signed⟩ := exists_isSigned run member
  rw [known] at signed
  exact ⟨items, parsed, fun signature inside =>
    ⟨Lexing.mentionsSelf_of_mem, (signed signature inside).namesSelf_iff proper plain⟩⟩

/-- Bare paths to the surrounding type are replaced at any depth. -/
theorem mentionsSelf_iff_nested :
    ∃ expansions, ofText "#[pyclass] struct A \x7b #[pyo3(get)] x: &[Fn(Vec<Self>) -> Self] \x7d" = .ok expansions ∧
      ∃ expansion ∈ expansions, expansion.descriptor.owner? = some "A" ∧ "A" ≠ "" ∧ ¬ MentionsSelf "A" ∧
        expansion.descriptor.signatures = ["&[Fn(Vec<A>) -> A]"] ∧
          ∃ items, ∀ signature ∈ expansion.descriptor.signatures,
            ("Self" ∈ (Lexing.ofText signature).tokens.map (·.text) → MentionsSelf signature) ∧
              (MentionsSelf signature ↔ ∃ type ∈ expansion.writtenTypes (Item.flattenAll items),
                signature = type.signature (some "A") ∧ type.stripLifetimes.KeepsSelf) := by
  have passed : (ofText
      "#[pyclass] struct A \x7b #[pyo3(get)] x: &[Fn(Vec<Self>) -> Self] \x7d").toOption.any (fun expansions =>
        expansions.any fun expansion => expansion.descriptor.owner? = some "A" ∧
          expansion.descriptor.signatures = ["&[Fn(Vec<A>) -> A]"]) = true := by
    decide +kernel
  simp only [Option.any_eq_true, List.any_eq_true, Outcome.toOption_eq_some, decide_eq_true_eq] at passed
  obtain ⟨expansions, run, expansion, member, known, signatures⟩ := passed
  have plain : ¬ MentionsSelf "A" := MentionsSelf.not_of_contains rfl
  obtain ⟨items, -, each⟩ := mentionsSelf_iff run member known (by decide) plain
  exact ⟨expansions, run, expansion, member, known, by decide, plain, signatures, items, each⟩

/-- The signature of a field of an associated type has the name of the surrounding type for a token. -/
theorem signatures_of_associatedType :
    ∃ expansions, ofText "#[pyclass] struct A \x7b #[pyo3(get)] x: Self::Item \x7d" = .ok expansions ∧
      ∃ expansion ∈ expansions, expansion.descriptor.owner? = some "A" ∧
        ∃ signature ∈ expansion.descriptor.signatures,
          "Self" ∈ (Lexing.ofText signature).tokens.map (·.text) := by
  have passed : (ofText "#[pyclass] struct A \x7b #[pyo3(get)] x: Self::Item \x7d").toOption.any (fun expansions =>
      expansions.any fun expansion => expansion.descriptor.owner? = some "A" ∧
        ∃ signature ∈ expansion.descriptor.signatures, "Self" ∈ (Lexing.ofText signature).tokens.map (·.text)) = true := by
    decide +kernel
  simp only [Option.any_eq_true, List.any_eq_true, Outcome.toOption_eq_some, decide_eq_true_eq] at passed
  exact passed

end Expansion

end Exposure
