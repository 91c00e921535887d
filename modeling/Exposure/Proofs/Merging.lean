import Exposure.Proofs.Grouping
import Mathlib.Data.List.Basic

/-!
# Options of two places together

`Options.merge` puts options of two places together. Appended pieces give what their two parts give, merged, unless a key is
written in both of them.
-/

namespace Exposure

namespace OptionKey.Takes

variable {key : OptionKey} {rest : List TokenTree} {value : OptionValue}

theorem exists_text (takes : key.Takes rest value) (isText : key.kind = .string ∨ key.kind = .path) :
    ∃ text, value = .text text := by
  cases takes with
  | flag isFlag => simp [isFlag] at isText
  | signature isSignature => simp [isSignature] at isText
  | literal => exact ⟨_, rfl⟩
  | path => exact ⟨_, rfl⟩

theorem exists_entries (takes : key.Takes rest value) (isSignature : key.kind = .signature) :
    ∃ entries, value = .entries entries := by
  cases takes with
  | flag isFlag => simp [isFlag] at isSignature
  | literal isText => simp [isSignature] at isText
  | path isPath => simp [isPath] at isSignature
  | signature => exact ⟨_, rfl⟩

end OptionKey.Takes

namespace Options

/-- Options of two places together; the first place is asked first. -/
def merge (one other : Options) : Options :=
  ⟨one.name.or other.name, one.module.or other.module, Flag.sorted.filter fun flag => one.has flag || other.has flag,
    one.signature.or other.signature, one.base.or other.base, one.renameAll.or other.renameAll,
    one.defaults ++ other.defaults⟩

@[simp] theorem merge_name (one other : Options) : (one.merge other).name = one.name.or other.name := rfl

@[simp] theorem merge_module (one other : Options) : (one.merge other).module = one.module.or other.module := rfl

@[simp] theorem merge_signature (one other : Options) :
    (one.merge other).signature = one.signature.or other.signature := rfl

@[simp] theorem merge_has (one other : Options) (flag : Flag) :
    (one.merge other).has flag = (one.has flag || other.has flag) := by
  rw [Bool.eq_iff_iff, has, merge, List.contains_iff_mem, List.mem_filter, and_iff_right flag.mem_sorted]

/-- Options have something under a key; default texts are recorded apart from the keys. -/
def holds (options : Options) : OptionKey → Bool
  | .name => options.name.isSome
  | .module => options.module.isSome
  | .base => options.base.isSome
  | .renameAll => options.renameAll.isSome
  | .signature => options.signature.isSome
  | .default => false
  | .flag flag => options.has flag

end Options

namespace OptionPairs

variable {vocabulary vocabulary' : Vocabulary} {piece : List TokenTree} {pieces pieces' : List (List TokenTree)}
  {pairs one other : OptionPairs} {key : OptionKey} {value : OptionValue} {options : Options}

/-- The keys of options are those that their pieces begin with. -/
theorem ReadsAll.mem_keys_iff (reads : ReadsAll vocabulary pieces pairs) :
    key ∈ pairs.map Prod.fst ↔ some key.text ∈ pieces.map keyOf? := by
  rw [reads.keys_eq, ← List.mem_map_of_injective OptionKey.some_text_injective]

theorem flags_contains (pairs : OptionPairs) (flag : Flag) :
    pairs.flags.contains flag = pairs.any fun pair => pair.1 = .flag flag := by
  rw [Bool.eq_iff_iff, List.contains_iff_mem, flags, List.mem_filter, and_iff_right flag.mem_sorted]

/-- What is read under a key with a text as its value is a text. -/
theorem ReadsAll.isSome_text?_iff (reads : ReadsAll vocabulary pieces pairs) (distinct : (pairs.map Prod.fst).Nodup)
    (isText : key.kind = .string ∨ key.kind = .path) : (pairs.text? key).isSome = true ↔ key ∈ pairs.map Prod.fst := by
  simp only [Option.isSome_iff_exists, text?_eq_some_iff distinct, List.mem_map, Prod.exists, exists_and_right,
    exists_eq_right]
  constructor
  · rintro ⟨text, member⟩
    exact ⟨.text text, member⟩
  · rintro ⟨value, member⟩
    obtain ⟨piece, -, ⟨-, -, takes⟩⟩ := reads.mem_iff.mp member
    obtain ⟨text, rfl⟩ := takes.exists_text isText
    exact ⟨text, member⟩

theorem lookup_eq_none_iff : pairs.lookup key = none ↔ key ∉ pairs.map Prod.fst := by
  simp only [List.lookup_eq_none_iff, List.mem_map, bne_iff_ne, not_exists, not_and, ne_comm, ne_eq]

theorem ReadsAll.isSome_entries?_iff (reads : ReadsAll vocabulary pieces pairs) (distinct : (pairs.map Prod.fst).Nodup) :
    pairs.entries?.isSome = true ↔ .signature ∈ pairs.map Prod.fst := by
  rw [entries?]
  cases found : pairs.lookup .signature with
  | none => simpa using lookup_eq_none_iff.mp found
  | some value =>
    have member := (lookup_eq_some_iff_of_nodup distinct).mp found
    obtain ⟨piece, -, ⟨-, -, takes⟩⟩ := reads.mem_iff.mp member
    obtain ⟨entries, rfl⟩ := takes.exists_entries rfl
    simpa using ⟨_, member⟩

/-! Appended pairs -/

section Append

variable (apart : (one.map Prod.fst).Disjoint (other.map Prod.fst))

include apart

/-- Of two lists of pairs without a common key, one has nothing under a key. -/
theorem lookup_eq_none_or (key : OptionKey) : one.lookup key = none ∨ other.lookup key = none := by
  rw [lookup_eq_none_iff, lookup_eq_none_iff, ← not_and_or]
  exact fun both => apart both.1 both.2

theorem text?_eq_none_or (key : OptionKey) : one.text? key = none ∨ other.text? key = none :=
  (lookup_eq_none_or apart key).imp (fun none => by simp [text?, none]) fun none => by simp [text?, none]

theorem text?_append (key : OptionKey) : text? (one ++ other) key = (one.text? key).or (other.text? key) := by
  simp only [text?, List.lookup_append]
  rcases lookup_eq_none_or apart key with none | none
  · simp [none]
  · simp only [none, Option.or_none]

theorem entries?_append : entries? (one ++ other) = one.entries?.or other.entries? := by
  simp only [entries?, List.lookup_append]
  rcases lookup_eq_none_or apart .signature with none | none
  · simp [none]
  · simp only [none, Option.or_none]

/-- Appended pairs amount to the options that the first and the others amount to, merged. -/
theorem build_append :
    build (one ++ other) = .ok options ↔
      ∃ first rest, one.build = .ok first ∧ other.build = .ok rest ∧ options = first.merge rest := by
  have flags : flags (one ++ other) =
      Flag.sorted.filter fun flag => one.flags.contains flag || other.flags.contains flag := by
    simp only [flags_contains]
    simp only [OptionPairs.flags, List.any_append]
  have rules : ((one.text? .renameAll).or (other.text? .renameAll)).bind RenameRule.ofText? =
      ((one.text? .renameAll).bind RenameRule.ofText?).or ((other.text? .renameAll).bind RenameRule.ofText?) := by
    rcases text?_eq_none_or apart .renameAll with none | none <;> simp [none]
  have known : (∀ text, (one.text? .renameAll).or (other.text? .renameAll) = some text →
        ∃ rule : RenameRule, rule.text = text) ↔
      (∀ text, one.text? .renameAll = some text → ∃ rule : RenameRule, rule.text = text) ∧
        ∀ text, other.text? .renameAll = some text → ∃ rule : RenameRule, rule.text = text := by
    rcases text?_eq_none_or apart .renameAll with none | none <;> simp [none]
  simp only [build_eq_ok_iff, text?_append apart, entries?_append apart, flags, rules, known]
  constructor
  · rintro ⟨⟨ofOne, ofOther⟩, rfl⟩
    exact ⟨_, _, ⟨ofOne, rfl⟩, ⟨ofOther, rfl⟩, rfl⟩
  · rintro ⟨_, _, ⟨ofOne, rfl⟩, ⟨ofOther, rfl⟩, rfl⟩
    exact ⟨⟨ofOne, ofOther⟩, rfl⟩

end Append

/-! Pieces of a vocabulary -/

/-- Pieces that are read are those of two parts, read each. -/
theorem readsAll_append_iff :
    ReadsAll vocabulary (pieces ++ pieces') pairs ↔
      ∃ one other, ReadsAll vocabulary pieces one ∧ ReadsAll vocabulary pieces' other ∧ pairs = one ++ other := by
  induction pieces generalizing pairs with
  | nil => simp
  | cons first rest again =>
    constructor
    · intro reads
      cases reads with
      | cons ofFirst ofRest =>
        obtain ⟨one, other, ofOne, ofOther, rfl⟩ := again.mp ofRest
        exact ⟨_ :: one, other, .cons ofFirst ofOne, ofOther, rfl⟩
    · rintro ⟨_, other, ofOne, ofOther, rfl⟩
      cases ofOne with
      | cons ofFirst ofRest => exact .cons ofFirst (again.mpr ⟨_, other, ofRest, ofOther, rfl⟩)

/-- Only the key of a piece is looked up in the vocabulary. -/
theorem Reads.congr (reads : Reads vocabulary piece key value)
    (same : ∀ text, keyOf? piece = some text → vocabulary.find? text = vocabulary'.find? text) :
    Reads vocabulary' piece key value := by
  cases reads with
  | @intro leaf rest _ _ isIdent known takes =>
    have keyed : keyOf? (.leaf leaf :: rest) = some leaf.text := by simp [keyOf?, SignatureEntry.ident?_leaf isIdent]
    exact .intro isIdent (same leaf.text keyed ▸ known) takes

end OptionPairs

namespace Vocabulary

open OptionPairs

variable {vocabulary vocabulary' : Vocabulary} {pieces pieces' : List (List TokenTree)} {options : Options}

/-- Options have something under the keys that their pieces begin with. -/
theorem Gives.holds_iff (gives : vocabulary.Gives pieces options) {key : OptionKey} (isKept : key ≠ .default) :
    options.holds key = true ↔ some key.text ∈ pieces.map keyOf? := by
  obtain ⟨pairs, reads, distinct, built⟩ := gives
  obtain ⟨known, rfl⟩ := build_eq_ok_iff.mp built
  rw [← reads.mem_keys_iff]
  cases key with
  | name => exact reads.isSome_text?_iff distinct (.inl rfl)
  | module => exact reads.isSome_text?_iff distinct (.inl rfl)
  | base => exact reads.isSome_text?_iff distinct (.inr rfl)
  | renameAll =>
    rw [← reads.isSome_text?_iff distinct (.inl rfl), Options.holds]
    cases found : pairs.text? .renameAll with
    | none => rfl
    | some text =>
      obtain ⟨rule, named⟩ := known text found
      simp [RenameRule.ofText?_eq_some_iff.mpr named]
  | signature => exact reads.isSome_entries?_iff distinct
  | default => exact absurd rfl isKept
  | flag flag =>
    rw [Options.holds, Options.has, flags_contains, List.any_eq_true]
    simp only [decide_eq_true_eq, List.mem_map]

theorem Gives.defaults_eq (gives : vocabulary.Gives pieces options) : options.defaults = [] := by
  obtain ⟨pairs, -, -, built⟩ := gives
  obtain ⟨-, rfl⟩ := build_eq_ok_iff.mp built
  rfl

/-- A name comes from a piece. -/
theorem Gives.exists_reads_name (gives : vocabulary.Gives pieces options) {text : String}
    (named : options.name = some text) : ∃ piece ∈ pieces, Reads vocabulary piece .name (.text text) := by
  obtain ⟨pairs, reads, distinct, built⟩ := gives
  obtain ⟨-, rfl⟩ := build_eq_ok_iff.mp built
  exact reads.mem_iff.mp ((text?_eq_some_iff distinct).mp named)

/-- Appended pieces give the options of both parts, merged, unless a key is written in both. -/
theorem gives_append_iff :
    vocabulary.Gives (pieces ++ pieces') options ↔
      ∃ one other, vocabulary.Gives pieces one ∧ vocabulary.Gives pieces' other ∧
        (pieces.map keyOf?).Disjoint (pieces'.map keyOf?) ∧ options = one.merge other := by
  constructor
  · rintro ⟨_, reads, distinct, built⟩
    obtain ⟨one, other, ofOne, ofOther, rfl⟩ := readsAll_append_iff.mp reads
    rw [List.map_append, List.nodup_append'] at distinct
    obtain ⟨distinctOne, distinctOther, apart⟩ := distinct
    obtain ⟨first, rest, builtOne, builtOther, rfl⟩ := (build_append apart).mp built
    refine ⟨first, rest, ⟨one, ofOne, distinctOne, builtOne⟩, ⟨other, ofOther, distinctOther, builtOther⟩, ?_, rfl⟩
    rw [ofOne.keys_eq, ofOther.keys_eq]
    exact List.disjoint_map OptionKey.some_text_injective apart
  · rintro ⟨first, rest, ⟨one, ofOne, distinctOne, builtOne⟩, ⟨other, ofOther, distinctOther, builtOther⟩, apart, rfl⟩
    rw [ofOne.keys_eq, ofOther.keys_eq, List.Disjoint.map_iff OptionKey.some_text_injective] at apart
    refine ⟨one ++ other, readsAll_append_iff.mpr ⟨one, other, ofOne, ofOther, rfl⟩, ?_,
      (build_append apart).mpr ⟨first, rest, builtOne, builtOther, rfl⟩⟩
    rw [List.map_append, List.nodup_append']
    exact ⟨distinctOne, distinctOther, apart⟩

theorem Gives.congr (gives : vocabulary.Gives pieces options)
    (same : ∀ piece ∈ pieces, ∀ text, keyOf? piece = some text → vocabulary.find? text = vocabulary'.find? text) :
    vocabulary'.Gives pieces options := by
  obtain ⟨pairs, reads, distinct, built⟩ := gives
  have both := (List.forall₂_and_left pieces pairs).mpr ⟨same, reads⟩
  exact ⟨pairs, both.imp fun _ _ one => one.2.congr one.1, distinct, built⟩

end Vocabulary

end Exposure
