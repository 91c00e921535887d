import Exposure.Proofs.OptionPieces
import Mathlib.Data.List.Perm.Basic

/-!
# How options are grouped

Options are read from several lists, and from the pieces of each in order. The result is that of the pieces as a collection:
lists are accepted if every piece is well formed, no key is written twice in all of them and the rule for names is a known
one, and neither the order of the pieces matters then nor which of them share a list.
-/

namespace Exposure

theorem RenameRule.ofText?_eq_some_iff {text : String} {rule : RenameRule} : ofText? text = some rule ↔ rule.text = text := by
  constructor
  · intro found
    simpa using List.find?_some found
  · rintro rfl
    cases rule <;> rfl

theorem Flag.mem_sorted (flag : Flag) : flag ∈ Flag.sorted := by
  cases flag <;> decide

/-- No two keys are spelled alike. -/
theorem OptionKey.text_injective : text.Injective := by
  let all : List OptionKey := [name, module, base, renameAll, signature, default] ++ Flag.sorted.map .flag
  have complete (key : OptionKey) : key ∈ all := by
    cases key with
    | flag switch => exact List.mem_append_right _ (List.mem_map_of_mem switch.mem_sorted)
    | _ => decide
  have apart : (all.map text).Nodup := by decide
  exact fun one other same => List.inj_on_of_nodup_map apart (complete one) (complete other) same

theorem OptionKey.some_text_injective : (fun key : OptionKey => some key.text).Injective :=
  fun _ _ same => text_injective (Option.some.inj same)

namespace OptionPairs

variable {vocabulary : Vocabulary} {pieces : List (List TokenTree)} {piece : List TokenTree} {pairs : OptionPairs}
  {key : OptionKey} {value : OptionValue}

/-- The identifier that a piece begins with. -/
def keyOf? (piece : List TokenTree) : Option String := (piece.head?.bind SignatureEntry.ident?).map (·.text)

theorem Reads.keyOf?_eq (reads : Reads vocabulary piece key value) : keyOf? piece = some key.text := by
  cases reads with
  | @intro leaf _ _ _ isIdent known takes =>
    have spelled : key.text = leaf.text := by simpa using List.find?_some known
    simp [keyOf?, SignatureEntry.ident?_leaf isIdent, spelled]

/-- A piece is one option at most. -/
theorem Reads.unique {key' : OptionKey} {value' : OptionValue} (reads : Reads vocabulary piece key value)
    (other : Reads vocabulary piece key' value') : (key, value) = (key', value') := by
  cases reads with
  | @intro leaf rest _ _ isIdent known takes =>
    cases other with
    | intro isIdent known' takes' =>
      obtain rfl := Option.some.inj (known.symm.trans known')
      have one : valueOfPiece key leaf rest = .ok value := valueOfPiece_eq_ok_iff.mpr takes
      have other : valueOfPiece key leaf rest = .ok value' := valueOfPiece_eq_ok_iff.mpr takes'
      rw [Except.ok.inj (one.symm.trans other)]

theorem ReadsAll.keys_eq (reads : ReadsAll vocabulary pieces pairs) :
    pieces.map keyOf? = (pairs.map Prod.fst).map fun key => some key.text := by
  induction reads with
  | nil => rfl
  | cons first _ again => rw [List.map_cons, first.keyOf?_eq, again, List.map_cons, List.map_cons]

/-- Keys differ if their spellings do. -/
theorem ReadsAll.nodup_iff (reads : ReadsAll vocabulary pieces pairs) :
    (pairs.map Prod.fst).Nodup ↔ (pieces.map keyOf?).Nodup := by
  rw [reads.keys_eq, List.nodup_map_iff OptionKey.some_text_injective]

/-- What pieces give is in the pairs. -/
theorem ReadsAll.mem_iff (reads : ReadsAll vocabulary pieces pairs) :
    (key, value) ∈ pairs ↔ ∃ piece ∈ pieces, Reads vocabulary piece key value := by
  constructor
  · exact Outcome.exists_of_forall₂ reads
  · rintro ⟨piece, member, one⟩
    obtain ⟨pair, inside, other⟩ := Outcome.exists_of_forall₂ reads.flip member
    exact one.unique other ▸ inside

theorem exists_readsAll (wellFormed : ∀ piece ∈ pieces, ∃ key value, Reads vocabulary piece key value) :
    ∃ pairs, ReadsAll vocabulary pieces pairs := by
  induction pieces with
  | nil => exact ⟨[], .nil⟩
  | cons first rest again =>
    obtain ⟨⟨key, value, one⟩, ofRest⟩ := List.forall_mem_cons.mp wellFormed
    obtain ⟨pairs, others⟩ := again ofRest
    exact ⟨(key, value) :: pairs, .cons one others⟩

theorem text?_eq_some_iff (distinct : (pairs.map Prod.fst).Nodup) {text : String} :
    pairs.text? key = some text ↔ (key, .text text) ∈ pairs := by
  rw [← lookup_eq_some_iff_of_nodup distinct, text?]
  cases pairs.lookup key with
  | none => simp
  | some found => cases found <;> simp

theorem build_eq_ok_iff {options : Options} :
    build pairs = .ok options ↔
      (∀ text, pairs.text? .renameAll = some text → ∃ rule : RenameRule, rule.text = text) ∧
        options = ⟨pairs.text? .name, pairs.text? .module, pairs.flags, pairs.entries?, pairs.text? .base,
          (pairs.text? .renameAll).bind RenameRule.ofText?, []⟩ := by
  rw [build]
  cases pairs.text? .renameAll with
  | none =>
    simp only [pure_bind, Outcome.pure_eq_ok, reduceCtorEq, false_implies, implies_true, true_and, Option.bind_none]
    exact eq_comm
  | some text =>
    cases known : RenameRule.ofText? text with
    | none =>
      have unknown : ∀ rule : RenameRule, rule.text ≠ text := by
        intro rule same
        rw [RenameRule.ofText?_eq_some_iff.mpr same] at known
        cases known
      simp [known, unknown]
    | some rule =>
      have named := RenameRule.ofText?_eq_some_iff.mp known
      simp only [known, pure_bind, Outcome.pure_eq_ok, Option.some.injEq, forall_eq', Option.bind_some]
      exact ⟨fun same => ⟨⟨rule, named⟩, same.symm⟩, fun both => both.2.symm⟩

/-- Pairs of different keys may stand in any order. -/
theorem build_perm {pairs' : OptionPairs} (distinct : (pairs.map Prod.fst).Nodup) (same : pairs.Perm pairs') :
    build pairs = build pairs' := by
  have distinct' := (same.map Prod.fst).nodup_iff.mp distinct
  have lookups (key : OptionKey) : pairs.lookup key = pairs'.lookup key := by
    apply Option.ext
    intro value
    rw [lookup_eq_some_iff_of_nodup distinct, lookup_eq_some_iff_of_nodup distinct', same.mem_iff]
  have texts : pairs.text? = pairs'.text? := funext fun key => by rw [text?, lookups, text?]
  have flags : pairs.flags = pairs'.flags := List.filter_congr fun flag _ => same.any_eq
  rw [build, texts, flags, entries?, lookups, build, entries?]

end OptionPairs

/-- Pieces give options: they are options under different keys, which amount to these. -/
def Vocabulary.Gives (vocabulary : Vocabulary) (pieces : List (List TokenTree)) (options : Options) : Prop :=
  ∃ pairs, OptionPairs.ReadsAll vocabulary pieces pairs ∧ (pairs.map Prod.fst).Nodup ∧ pairs.build = .ok options

theorem Options.ofLists_eq_ok_iff {vocabulary : Vocabulary} {lists : List (List TokenTree)} {options : Options} :
    ofLists vocabulary lists = .ok options ↔ vocabulary.Gives (lists.flatMap TokenTree.splitAtCommas) options := by
  simp only [ofLists, Outcome.bind_eq_ok, OptionPairs.ofLists_eq_ok_iff, and_assoc, Vocabulary.Gives]

/-- The same pieces give the same options in any order. -/
theorem Vocabulary.Gives.perm {vocabulary : Vocabulary} {pieces pieces' : List (List TokenTree)} {options : Options}
    (gives : vocabulary.Gives pieces options) (same : pieces.Perm pieces') : vocabulary.Gives pieces' options := by
  obtain ⟨pairs, reads, distinct, built⟩ := gives
  obtain ⟨pairs', reads', swapped⟩ := List.perm_comp_forall₂ same.symm reads
  have distinct' := (swapped.map Prod.fst).nodup_iff.mpr distinct
  exact ⟨pairs', reads', distinct', OptionPairs.build_perm distinct' swapped ▸ built⟩

/-- Pieces are accepted when each of them is well formed, their keys differ, and the rule for names is known. -/
structure Vocabulary.Accepts (vocabulary : Vocabulary) (pieces : List (List TokenTree)) : Prop where
  wellFormed : ∀ piece ∈ pieces, ∃ key value, OptionPairs.Reads vocabulary piece key value
  distinct : (pieces.map OptionPairs.keyOf?).Nodup
  knownRule : ∀ piece ∈ pieces, ∀ text, OptionPairs.Reads vocabulary piece .renameAll (.text text) →
    ∃ rule : RenameRule, rule.text = text

namespace Options

open OptionPairs

variable {vocabulary : Vocabulary} {lists lists' : List (List TokenTree)}

theorem exists_ofLists_eq_ok_iff :
    (∃ options, ofLists vocabulary lists = .ok options) ↔
      vocabulary.Accepts (lists.flatMap TokenTree.splitAtCommas) := by
  constructor
  · rintro ⟨options, run⟩
    obtain ⟨pairs, reads, distinct, built⟩ := ofLists_eq_ok_iff.mp run
    obtain ⟨known, -⟩ := build_eq_ok_iff.mp built
    refine ⟨fun piece member => ?_, reads.nodup_iff.mp distinct, fun piece member text one => known text ?_⟩
    · obtain ⟨pair, -, one⟩ := Outcome.exists_of_forall₂ reads.flip member
      exact ⟨pair.1, pair.2, one⟩
    · exact (text?_eq_some_iff distinct).mpr (reads.mem_iff.mpr ⟨piece, member, one⟩)
  · rintro ⟨wellFormed, distinct, knownRule⟩
    obtain ⟨pairs, reads⟩ := exists_readsAll wellFormed
    have distinct' := reads.nodup_iff.mpr distinct
    have known : ∀ text, pairs.text? .renameAll = some text → ∃ rule : RenameRule, rule.text = text := by
      intro text found
      obtain ⟨piece, member, one⟩ := reads.mem_iff.mp ((text?_eq_some_iff distinct').mp found)
      exact knownRule piece member text one
    exact ⟨_, ofLists_eq_ok_iff.mpr ⟨pairs, reads, distinct', build_eq_ok_iff.mpr ⟨known, rfl⟩⟩⟩

end Options

end Exposure
