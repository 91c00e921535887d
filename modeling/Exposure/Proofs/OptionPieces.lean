import Exposure.Options
import Exposure.Proofs.Outcome
import Mathlib.Data.List.Nodup

/-!
# Pieces of option lists

`SignatureEntry.Spells` says which pieces are elements of an override, and `OptionPairs.Reads` which pieces are options, and
what they give to which key. Option lists are read exactly if each of their pieces is an option and no two have one key.
-/

namespace Exposure

/-- In a list of pairs with different keys, each pair is found under its key. -/
theorem lookup_eq_some_iff_of_nodup {key value : Type} [BEq key] [LawfulBEq key] {pairs : List (key × value)}
    (distinct : (pairs.map Prod.fst).Nodup) {name : key} {given : value} :
    pairs.lookup name = some given ↔ (name, given) ∈ pairs := by
  induction pairs with
  | nil => simp
  | cons first rest step =>
    obtain ⟨apart, ofRest⟩ := List.nodup_cons.mp distinct
    obtain ⟨known, found⟩ := first
    by_cases same : name = known
    · subst same
      have absent : (name, given) ∉ rest := fun member => apart (List.mem_map.mpr ⟨_, member, rfl⟩)
      simp [absent, eq_comm]
    · rw [List.lookup_cons, beq_eq_false_iff_ne.mpr same, step ofRest, List.mem_cons]
      simp [same]

theorem TokenTree.isMark_eq_true_iff {tree : TokenTree} {mark : Punctuation} :
    tree.isMark mark = true ↔ ∃ position, tree = .leaf ⟨.punctuation, mark.text, position⟩ := by
  cases tree with
  | leaf token =>
    obtain ⟨kind, text, position⟩ := token
    simp [isMark, leaf?, Leaf.isMark]
  | group delimiter trees position => simp [isMark, leaf?]

theorem TokenTree.nil_notMem_splitAtCommas (trees : List TokenTree) : [] ∉ splitAtCommas trees := by
  intro member
  simpa using List.of_mem_filter member

namespace SignatureEntry

/-- A piece of an override is an element of a form. -/
inductive Spells : List TokenTree → EntryForm → Prop
  | positionalMarker {slash : TokenTree} (isSlash : slash.isMark .slash = true) : Spells [slash] .positionalMarker
  | keywordMarker {star : TokenTree} (isStar : star.isMark .star = true) : Spells [star] .keywordMarker
  | variadicPositional {star : TokenTree} {name : Leaf} (isStar : star.isMark .star = true)
      (isIdent : name.kind = .ident) : Spells [star, .leaf name] (.variadicPositional name.text)
  | variadicKeyword {star second : TokenTree} {name : Leaf} (isStar : star.isMark .star = true)
      (isSecond : second.isMark .star = true) (isIdent : name.kind = .ident) :
      Spells [star, second, .leaf name] (.variadicKeyword name.text)
  | required {name : Leaf} (isIdent : name.kind = .ident) : Spells [.leaf name] (.named name.text none)
  | defaulted {name : Leaf} {equals first : TokenTree} {rest : List TokenTree} (isIdent : name.kind = .ident)
      (isEquals : equals.isMark .equals = true) :
      Spells (.leaf name :: equals :: first :: rest) (.named name.text (some (first :: rest)))

theorem ident?_eq_some_iff {tree : TokenTree} {leaf : Leaf} :
    ident? tree = some leaf ↔ tree = .leaf leaf ∧ leaf.kind = .ident := by
  cases tree with
  | leaf only =>
    simp only [ident?, TokenTree.leaf?, Option.filter_eq_some_iff, Option.some.injEq, TokenTree.leaf.injEq,
      decide_eq_true_eq]
  | group delimiter trees position => simp [ident?, TokenTree.leaf?]

theorem ident?_leaf {name : Leaf} (isIdent : name.kind = .ident) : ident? (.leaf name) = some name :=
  ident?_eq_some_iff.mpr ⟨rfl, isIdent⟩

theorem isMark_of_ident {name : Leaf} (isIdent : name.kind = .ident) (mark : Punctuation) :
    (TokenTree.leaf name).isMark mark = false := by
  simp [TokenTree.isMark, TokenTree.leaf?, Leaf.isMark, isIdent]

/-- A form that is made of an identifier comes from one. -/
theorem map_ident?_eq_some_iff {tree : TokenTree} (make : String → EntryForm) {form : EntryForm} :
    ((ident? tree).map fun leaf => make leaf.text) = some form ↔
      ∃ name, tree = .leaf name ∧ name.kind = .ident ∧ make name.text = form := by
  simp only [Option.map_eq_some_iff, ident?_eq_some_iff, and_assoc]

theorem spells_of_form? {piece : List TokenTree} {form : EntryForm} (found : form? piece = some form) :
    Spells piece form := by
  rcases piece with _ | ⟨first, _ | ⟨second, _ | ⟨third, rest⟩⟩⟩
  · cases found
  · simp only [form?] at found
    split at found
    · obtain rfl := Option.some.inj found
      exact .positionalMarker ‹_›
    split at found
    · obtain rfl := Option.some.inj found
      exact .keywordMarker ‹_›
    · obtain ⟨name, rfl, isIdent, rfl⟩ := (map_ident?_eq_some_iff (.named · none)).mp found
      exact .required isIdent
  · simp only [form?] at found
    split at found
    · obtain ⟨name, rfl, isIdent, rfl⟩ := (map_ident?_eq_some_iff .variadicPositional).mp found
      exact .variadicPositional ‹_› isIdent
    · cases found
  · simp only [form?] at found
    split at found
    · rename_i stars
      simp only [Bool.and_eq_true, List.isEmpty_iff] at stars
      obtain ⟨⟨isStar, isSecond⟩, rfl⟩ := stars
      obtain ⟨name, rfl, isIdent, rfl⟩ := (map_ident?_eq_some_iff .variadicKeyword).mp found
      exact .variadicKeyword isStar isSecond isIdent
    split at found
    · obtain ⟨name, rfl, isIdent, rfl⟩ :=
        (map_ident?_eq_some_iff (.named · (some (third :: rest)))).mp found
      exact .defaulted isIdent ‹_›
    · cases found

theorem form?_eq_some_iff {piece : List TokenTree} {form : EntryForm} : form? piece = some form ↔ Spells piece form := by
  refine ⟨spells_of_form?, fun spells => ?_⟩
  cases spells with
  | positionalMarker isSlash => simp [form?, isSlash]
  | keywordMarker isStar =>
    obtain ⟨position, rfl⟩ := TokenTree.isMark_eq_true_iff.mp isStar
    rfl
  | variadicPositional isStar isIdent => simp [form?, isStar, ident?_leaf isIdent]
  | variadicKeyword isStar isSecond isIdent => simp [form?, isStar, isSecond, ident?_leaf isIdent]
  | required isIdent => simp [form?, isMark_of_ident isIdent, ident?_leaf isIdent]
  | defaulted isIdent isEquals => simp [form?, isMark_of_ident isIdent, isEquals, ident?_leaf isIdent]

/-- An element is what its piece spells, and stands where the piece begins. -/
def IsElement (piece : List TokenTree) (entry : SignatureEntry) : Prop :=
  Spells piece entry.form ∧ entry.position = (piece.head?.map TokenTree.position).getD .start

theorem ofPiece_eq_ok_iff {key : String} {piece : List TokenTree} {entry : SignatureEntry} :
    ofPiece key piece = .ok entry ↔ IsElement piece entry := by
  obtain ⟨form, position⟩ := entry
  rw [ofPiece, IsElement, ← form?_eq_some_iff]
  cases form? piece with
  | none => simp
  | some found => simp [eq_comm]

theorem ofTree_eq_ok_iff {key : String} {tree : TokenTree} {entries : List SignatureEntry} :
    ofTree key tree = .ok entries ↔
      ∃ inside position, tree = .group .paren inside position ∧
        List.Forall₂ IsElement (TokenTree.splitAtCommas inside) entries := by
  unfold ofTree
  split
  · rename_i inside position
    simp only [Outcome.mapM_eq_ok_iff, ofPiece_eq_ok_iff, TokenTree.group.injEq, true_and]
    constructor
    · intro elements
      exact ⟨inside, position, ⟨rfl, rfl⟩, elements⟩
    · rintro ⟨_, _, ⟨rfl, rfl⟩, elements⟩
      exact elements
  · rename_i noGroup
    simp only [Outcome.report_ne_ok, false_iff, not_exists, not_and]
    rintro inside position rfl
    exact absurd rfl (noGroup inside position)

end SignatureEntry

/-- What may stand behind a key: nothing, a string literal, a path or a literal of one, or an override. -/
inductive OptionKind where
  | flag | string | path | signature
  deriving DecidableEq, Repr

namespace OptionKey

/-- The kind of a key. -/
def kind : OptionKey → OptionKind
  | name => .string
  | module => .string
  | base => .path
  | renameAll => .string
  | signature => .signature
  | default => .string
  | flag _ => .flag

theorem kind_of_other {key : OptionKey} (noFlag : ∀ switch, key = .flag switch → False)
    (noSignature : key = .signature → False) : key.kind = .string ∨ key.kind = .path := by
  cases key with
  | flag switch => exact (noFlag switch rfl).elim
  | signature => exact (noSignature rfl).elim
  | base => exact .inr rfl
  | _ => exact .inl rfl

/-- What stands behind a key is well formed for its kind, and gives it a value. -/
inductive Takes : OptionKey → List TokenTree → OptionValue → Prop
  | flag {key : OptionKey} (isFlag : key.kind = .flag) : Takes key [] .present
  | literal {key : OptionKey} {equals : TokenTree} {literal : Leaf} {text : String}
      (isText : key.kind = .string ∨ key.kind = .path) (isEquals : equals.isMark .equals = true)
      (isLiteral : literal.kind = .string) (decoded : Literal.decode literal.text = .ok text) :
      Takes key [equals, .leaf literal] (.text text)
  | path {key : OptionKey} {equals first : TokenTree} {rest : List TokenTree} (isPath : key.kind = .path)
      (isEquals : equals.isMark .equals = true) (noLiteral : OptionPairs.stringLiteral? (first :: rest) = none) :
      Takes key (equals :: first :: rest) (.text (TokenTree.renderAll (first :: rest)))
  | signature {key : OptionKey} {equals : TokenTree} {inside : List TokenTree} {position : Position}
      {entries : List SignatureEntry} (isSignature : key.kind = .signature) (isEquals : equals.isMark .equals = true)
      (elements : List.Forall₂ SignatureEntry.IsElement (TokenTree.splitAtCommas inside) entries) :
      Takes key [equals, .group .paren inside position] (.entries entries)

end OptionKey

namespace OptionPairs

open OptionKey (Takes)

theorem stringLiteral?_eq_some_iff {trees : List TokenTree} {literal : String} :
    stringLiteral? trees = some literal ↔ ∃ leaf, trees = [.leaf leaf] ∧ leaf.kind = .string ∧ leaf.text = literal := by
  unfold stringLiteral?
  split
  · simp
  · rename_i other
    simp only [reduceCtorEq, false_iff, not_exists, not_and]
    intro leaf single
    exact absurd single (other leaf)

theorem stringLiteral?_leaf {literal : Leaf} (isLiteral : literal.kind = .string) :
    stringLiteral? [.leaf literal] = some literal.text :=
  stringLiteral?_eq_some_iff.mpr ⟨literal, rfl, isLiteral, rfl⟩

theorem takes_of_valueOfPiece {key : OptionKey} {leaf : Leaf} {rest : List TokenTree} {value : OptionValue}
    (run : valueOfPiece key leaf rest = .ok value) : key.Takes rest value := by
  unfold valueOfPiece at run
  simp only at run
  split at run
  · obtain rfl := Except.ok.inj run
    exact .flag rfl
  · exact absurd run Outcome.report_ne_ok
  · rename_i noFlag
    split at run
    · rename_i isEquals
      split at run
      · split at run
        · rename_i alone
          rw [List.isEmpty_iff] at alone
          subst alone
          simp only [Outcome.map_eq_ok, SignatureEntry.ofTree_eq_ok_iff] at run
          obtain ⟨entries, ⟨inside, position, rfl, elements⟩, rfl⟩ := run
          exact .signature rfl isEquals elements
        · exact absurd run Outcome.report_ne_ok
      · obtain rfl := Except.ok.inj run
        exact .path rfl isEquals ‹_›
      · rename_i noSignature found
        obtain ⟨literal, single, isLiteral, rfl⟩ := stringLiteral?_eq_some_iff.mp found
        simp only [Outcome.map_eq_ok] at run
        obtain ⟨text, decoded, rfl⟩ := run
        exact single ▸ .literal (OptionKey.kind_of_other noFlag noSignature) isEquals isLiteral decoded
      · exact absurd run Outcome.report_ne_ok
    · exact absurd run Outcome.report_ne_ok
  · exact absurd run Outcome.report_ne_ok

theorem valueOfPiece_of_takes {key : OptionKey} {leaf : Leaf} {rest : List TokenTree} {value : OptionValue}
    (takes : key.Takes rest value) : valueOfPiece key leaf rest = .ok value := by
  cases takes with
  | flag isFlag => cases key <;> simp_all [valueOfPiece, OptionKey.kind]
  | literal isText isEquals isLiteral decoded =>
    cases key <;> simp_all [valueOfPiece, OptionKey.kind, stringLiteral?_leaf]
  | path isPath isEquals noLiteral => cases key <;> simp_all [valueOfPiece, OptionKey.kind]
  | signature isSignature isEquals elements =>
    cases key <;> simp_all [valueOfPiece, OptionKey.kind, SignatureEntry.ofTree_eq_ok_iff]

theorem valueOfPiece_eq_ok_iff {key : OptionKey} {leaf : Leaf} {rest : List TokenTree} {value : OptionValue} :
    valueOfPiece key leaf rest = .ok value ↔ key.Takes rest value :=
  ⟨takes_of_valueOfPiece, valueOfPiece_of_takes⟩

/-- A piece is an option: a known key, with what stands behind it. -/
inductive Reads (vocabulary : Vocabulary) : List TokenTree → OptionKey → OptionValue → Prop
  | intro {leaf : Leaf} {rest : List TokenTree} {key : OptionKey} {value : OptionValue} (isIdent : leaf.kind = .ident)
      (known : vocabulary.find? leaf.text = some key) (takes : key.Takes rest value) :
      Reads vocabulary (.leaf leaf :: rest) key value

/-- Every piece of a list is an option. -/
abbrev ReadsAll (vocabulary : Vocabulary) (pieces : List (List TokenTree)) (pairs : OptionPairs) : Prop :=
  List.Forall₂ (fun piece pair => Reads vocabulary piece pair.1 pair.2) pieces pairs

theorem keyOfPiece_eq_ok_iff {vocabulary : Vocabulary} {first : TokenTree} {piece : List TokenTree} {key : OptionKey}
    {leaf : Leaf} :
    keyOfPiece vocabulary first piece = .ok (key, leaf) ↔
      first = .leaf leaf ∧ leaf.kind = .ident ∧ vocabulary.find? leaf.text = some key := by
  rw [← and_assoc, ← SignatureEntry.ident?_eq_some_iff, keyOfPiece]
  cases SignatureEntry.ident? first with
  | none => simp
  | some only =>
    cases known : vocabulary.find? only.text with
    | none =>
      simp only [known, Outcome.report_ne_ok, Option.some.injEq, false_iff, not_and]
      rintro rfl
      simp [known]
    | some found =>
      simp only [known, Except.ok.injEq, Prod.mk.injEq, Option.some.injEq]
      constructor
      · rintro ⟨rfl, rfl⟩
        exact ⟨rfl, known⟩
      · rintro ⟨rfl, same⟩
        exact ⟨Option.some.inj (known.symm.trans same), rfl⟩

/-- One more piece is read if it is an option under a key that has not been written. -/
theorem addPiece_eq_ok_iff {vocabulary : Vocabulary} {pairs after : OptionPairs} {piece : List TokenTree}
    (proper : piece ≠ []) :
    addPiece vocabulary pairs piece = .ok after ↔
      ∃ pair : OptionKey × OptionValue, Reads vocabulary piece pair.1 pair.2 ∧ pair.1 ∉ pairs.map Prod.fst ∧
        after = pairs ++ [pair] := by
  obtain ⟨first, rest, rfl⟩ := List.exists_cons_of_ne_nil proper
  have isFresh (key : OptionKey) : ¬ (pairs.any fun pair => pair.1 = key) = true ↔ key ∉ pairs.map Prod.fst := by
    simp only [List.any_eq_true, decide_eq_true_eq, List.mem_map]
  simp only [addPiece, Outcome.bind_eq_ok]
  constructor
  · rintro ⟨⟨key, leaf⟩, keyed, run⟩
    obtain ⟨rfl, isIdent, known⟩ := keyOfPiece_eq_ok_iff.mp keyed
    split at run
    · exact absurd run Outcome.report_ne_ok
    · rename_i fresh
      simp only [Outcome.bind_eq_ok, Outcome.pure_eq_ok] at run
      obtain ⟨value, valued, rfl⟩ := run
      exact ⟨(key, value), .intro isIdent known (valueOfPiece_eq_ok_iff.mp valued), (isFresh key).mp fresh, rfl⟩
  · rintro ⟨⟨key, value⟩, reads, fresh, rfl⟩
    cases reads with
    | @intro leaf _ _ _ isIdent known takes =>
      refine ⟨(key, leaf), keyOfPiece_eq_ok_iff.mpr ⟨rfl, isIdent, known⟩, ?_⟩
      rw [if_neg ((isFresh key).mpr fresh)]
      simp only [Outcome.bind_eq_ok, Outcome.pure_eq_ok]
      exact ⟨value, valueOfPiece_eq_ok_iff.mpr takes, rfl⟩

theorem nodup_append_singleton_iff {pairs : OptionPairs} {pair : OptionKey × OptionValue} :
    ((pairs ++ [pair]).map Prod.fst).Nodup ↔ pair.1 ∉ pairs.map Prod.fst ∧ (pairs.map Prod.fst).Nodup := by
  rw [List.map_append, List.map_singleton, List.nodup_append_comm, List.singleton_append, List.nodup_cons]

theorem foldlM_addPiece_eq_ok_iff {vocabulary : Vocabulary} {pieces : List (List TokenTree)} (proper : [] ∉ pieces)
    {pairs after : OptionPairs} (distinct : (pairs.map Prod.fst).Nodup) :
    pieces.foldlM (addPiece vocabulary) pairs = .ok after ↔
      ∃ found, ReadsAll vocabulary pieces found ∧ after = pairs ++ found ∧ (after.map Prod.fst).Nodup := by
  -- Each piece is compared with the keys before it only; that all keys differ is what these comparisons say together.
  induction pieces generalizing pairs with
  | nil =>
    simp only [List.foldlM_nil, Outcome.pure_eq_ok, List.forall₂_nil_left_iff, exists_eq_left, List.append_nil]
    constructor
    · rintro rfl
      exact ⟨rfl, distinct⟩
    · rintro ⟨rfl, -⟩
      rfl
  | cons first rest again =>
    obtain ⟨ofFirst, ofRest⟩ := not_or.mp fun either => proper (List.mem_cons.mpr either)
    simp only [List.foldlM_cons, Outcome.bind_eq_ok, addPiece_eq_ok_iff (Ne.symm ofFirst)]
    constructor
    · rintro ⟨_, ⟨pair, reads, fresh, rfl⟩, run⟩
      have distinct' := nodup_append_singleton_iff.mpr ⟨fresh, distinct⟩
      obtain ⟨found, others, rfl, apart⟩ := (again ofRest distinct').mp run
      exact ⟨pair :: found, .cons reads others, List.append_cons .. |>.symm, apart⟩
    · rintro ⟨found, each, rfl, apart⟩
      cases each with
      | @cons _ pair _ found reads others =>
        have whole : pairs ++ pair :: found = pairs ++ [pair] ++ found := List.append_cons ..
        have distinct' : ((pairs ++ [pair]).map Prod.fst).Nodup :=
          ((List.prefix_append _ found).sublist.map Prod.fst).nodup (whole ▸ apart)
        obtain ⟨fresh, -⟩ := nodup_append_singleton_iff.mp distinct'
        exact ⟨_, ⟨pair, reads, fresh, rfl⟩, (again ofRest distinct').mpr ⟨found, others, whole, apart⟩⟩

theorem ofLists_eq (vocabulary : Vocabulary) (lists : List (List TokenTree)) :
    ofLists vocabulary lists = (lists.flatMap TokenTree.splitAtCommas).foldlM (addPiece vocabulary) [] := by
  unfold ofLists
  generalize ([] : OptionPairs) = pairs
  induction lists generalizing pairs with
  | nil => rfl
  | cons first rest step =>
    rw [List.foldlM_cons, List.flatMap_cons, List.foldlM_append, addList]
    congr 1
    funext after
    exact step after

/-- Option lists are read if their pieces are options under different keys, and they are what the pieces give. -/
theorem ofLists_eq_ok_iff {vocabulary : Vocabulary} {lists : List (List TokenTree)} {pairs : OptionPairs} :
    ofLists vocabulary lists = .ok pairs ↔
      ReadsAll vocabulary (lists.flatMap TokenTree.splitAtCommas) pairs ∧ (pairs.map Prod.fst).Nodup := by
  have proper : [] ∉ lists.flatMap TokenTree.splitAtCommas := by
    intro member
    obtain ⟨trees, -, inside⟩ := List.mem_flatMap.mp member
    exact TokenTree.nil_notMem_splitAtCommas trees inside
  have atStart : (([] : OptionPairs).map Prod.fst).Nodup := List.nodup_nil
  rw [ofLists_eq, foldlM_addPiece_eq_ok_iff proper atStart]
  simp

end OptionPairs

end Exposure
