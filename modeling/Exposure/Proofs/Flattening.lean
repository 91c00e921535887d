import Exposure.Proofs.Overrun
import Exposure.Proofs.Rereading

/-!
# The tokens of token trees

A token tree holds the tokens that it was read from, in their order, the brackets of its groups among them. So the tokens of
token trees in a text have texts of their kinds, and none but those at the ends of groups closes a group.
-/

namespace Exposure

open Lexeme

/-! Tokens of texts -/

/-- The kind and the text of a token. -/
def Token.atom (token : Token) : Atom := (.ofTerminal token.terminal, token.text)

theorem Lexeme.atom_of_token? {lexeme : Lexeme} {token : Token} (found : lexeme.token? = some token) :
    ∃ terminal, lexeme.kind = some terminal ∧ token.atom = (.ofTerminal terminal, String.ofList lexeme.text) := by
  obtain ⟨terminal, isToken, rfl⟩ := Option.map_eq_some_iff.mp found
  refine ⟨terminal, isToken, ?_⟩
  cases terminal with
  | ident =>
    simp only [Token.atom]
    cases Keyword.ofText? (String.ofList lexeme.text) <;> rfl
  | _ => rfl

namespace Atom

/-- What the text of a token was lexed as is a token of its kind to its end. -/
theorem isLexed_of_first? {input : List Char} {terminal : Terminal} {length : Nat} (positive : 0 < length)
    (found : first? input = some (some terminal, length)) (noDoc : terminal ≠ .docComment) :
    IsLexed (.ofTerminal terminal, String.ofList (input.take length)) := by
  have size : (input.take length).length = length := List.length_take_of_le (first?_le found)
  have proper : input.take length ≠ [] := List.ne_nil_of_length_pos (by omega)
  have cut {class? : List Char → Option Nat}
      (ofAppend : ∀ {front more}, front ≠ [] → class? (front ++ more) = some front.length → class? front = some front.length)
      (ofClass : class? input = some length) :
      class? (String.ofList (input.take length)).toList = some (String.ofList (input.take length)).length := by
    rw [String.toList_ofList, String.length_ofList]
    exact ofAppend proper (by rw [List.take_append_drop, size, ofClass])
  have closed {class? : List Char → Option Nat} (closes : IsClosed class?) (ofClass : class? input = some length) :
      class? (String.ofList (input.take length)).toList = some (String.ofList (input.take length)).length := by
    have alone := (closes _ _ ofClass).2.2 []
    rw [List.append_nil] at alone
    rw [String.toList_ofList, String.length_ofList, alone, size]
  obtain ⟨candidate, member, same⟩ := List.exists_of_findSome?_eq_some found
  simp only [classes, List.mem_cons, List.not_mem_nil, or_false] at member
  rcases member with rfl | rfl | rfl | rfl | rfl | rfl | rfl | rfl | rfl | rfl | rfl <;>
    (obtain ⟨_, ofClass, same⟩ := Option.map_eq_some_iff.mp same; cases same)
  · exact absurd rfl noDoc
  · exact .inl (closed isClosed_rawString? ofClass)
  · exact .inr (closed isClosed_string? ofClass)
  · exact closed isClosed_char? ofClass
  · exact cut number?_of_append ofClass
  · exact cut ident?_of_append ofClass
  · exact cut lifetime?_of_append ofClass
  · rename_i mark
    obtain ⟨behind, rfl⟩ := ofText?_prefix ofClass
    refine ⟨mark, ?_⟩
    rw [← String.length_toList, List.take_left, String.ofList_toList]

/-- A token closes a group. -/
def isClosing (atom : Atom) : Bool :=
  [Delimiter.paren, .bracket, .brace].any fun delimiter => atom = (.punctuation, delimiter.closing.text)

/-- The tokens of some texts are lexed. -/
def AllLexed (atoms : List Atom) : Prop := ∀ atom ∈ atoms, atom.IsLexed

end Atom

open Atom

namespace TokenTree

mutual

/-- The tokens of a tree from left to right, those at the ends of groups among them. -/
def atoms : TokenTree → List Atom
  | leaf token => [(token.kind, token.text)]
  | group delimiter trees _ =>
    (.punctuation, delimiter.opening.text) :: (atomsOfAll trees ++ [(.punctuation, delimiter.closing.text)])

/-- The tokens of some trees from left to right. -/
def atomsOfAll : List TokenTree → List Atom
  | [] => []
  | first :: rest => first.atoms ++ atomsOfAll rest

end

mutual

/-- Only groups close groups. -/
def IsBalanced : TokenTree → Prop
  | leaf token => isClosing (token.kind, token.text) = false
  | group _ trees _ => AllBalanced trees

/-- Only groups close groups in some trees. -/
def AllBalanced : List TokenTree → Prop
  | [] => True
  | first :: rest => first.IsBalanced ∧ AllBalanced rest

end

theorem atomsOfAll_append (one two : List TokenTree) : atomsOfAll (one ++ two) = atomsOfAll one ++ atomsOfAll two := by
  induction one with
  | nil => rfl
  | cons first rest step => rw [List.cons_append, atomsOfAll, step, atomsOfAll, List.append_assoc]

theorem allBalanced_iff {trees : List TokenTree} : AllBalanced trees ↔ ∀ tree ∈ trees, tree.IsBalanced := by
  induction trees with
  | nil => simp [AllBalanced]
  | cons first rest step => simp [AllBalanced, step]

end TokenTree

/-! The tokens of token trees that are read -/

namespace Rule

open Grammar.Contract TokenTree

/-- What is relied on of each rule: the tokens of a token tree are those that it was read from. -/
def flattening : Grammar.Contract Token (List Atom) RuleName.Meaning where
  admits token := token.word.IsGenuine
  move read token := read ++ [token.atom]
  begins _ _ := True
  promises
    | .tree, before, after, tree => after = before ++ tree.atoms ∧ tree.IsBalanced
    | .type, _, _, _ => True
    | .item, _, _, _ => True

/-- The tokens of the trees that a rule gives are those that it reads. -/
def Flattens (rule : Rule TokenTree) : Prop :=
  ∀ before, flattening.Ensures rule (fun after tree => after = before ++ tree.atoms ∧ tree.IsBalanced) before

/-- The tokens of the lists of trees that a rule gives are those that it reads. -/
def FlattensAll (rule : Rule (List TokenTree)) : Prop :=
  ∀ before, flattening.Ensures rule (fun after trees => after = before ++ atomsOfAll trees ∧ AllBalanced trees) before

theorem tree_flattens : tree.Flattens := fun _ => ⟨trivial, fun _ _ promised => promised⟩

theorem Flattens.many {rule : Rule TokenTree} (flattens : rule.Flattens) : FlattensAll (Grammar.many rule) := by
  intro before
  refine ⟨fun read state => state = before ++ atomsOfAll read ∧ AllBalanced read, ⟨(List.append_nil _).symm, trivial⟩, ?_,
    fun _ _ holds => holds⟩
  rintro read _ ⟨rfl, balanced⟩
  refine Ensures.mono ?_ (flattens _)
  rintro _ found ⟨rfl, ofFound⟩
  refine ⟨?_, allBalanced_iff.mpr (List.forall_mem_append.mpr ⟨allBalanced_iff.mp balanced, List.forall_mem_singleton.mpr ofFound⟩)⟩
  rw [atomsOfAll_append, atomsOfAll, atomsOfAll, List.append_nil, List.append_assoc]

theorem Flattens.several {rule : Rule TokenTree} (flattens : rule.Flattens) : FlattensAll (Grammar.several rule) := by
  intro before
  have first : flattening.Ensures (List.cons <$> rule)
      (fun middle build => flattening.Ensures (Grammar.many rule)
        (fun after rest => after = before ++ atomsOfAll (build rest) ∧ AllBalanced (build rest)) middle) before := by
    refine ensures_map.mpr (Ensures.mono ?_ (flattens before))
    rintro _ tree ⟨rfl, ofTree⟩
    refine Ensures.mono ?_ (flattens.many _)
    rintro _ rest ⟨rfl, ofRest⟩
    exact ⟨List.append_assoc .., ofTree, ofRest⟩
  exact first

theorem mark_flattens (punctuation : Punctuation) (before : List Atom) :
    flattening.Ensures (mark punctuation) (fun after _ => after = before ++ [(.punctuation, punctuation.text)]) before := by
  rintro ⟨terminal, text, start, stop⟩ genuine accepted
  obtain rfl : terminal = .mark punctuation := of_decide_eq_true accepted
  obtain rfl : text = punctuation.text := genuine
  rfl

theorem group_flattens (delimiter : Delimiter) : (group delimiter).Flattens := by
  intro before
  have opening : flattening.Ensures
      ((fun (opening : Token) inside => TokenTree.group delimiter inside opening.start) <$> mark delimiter.opening)
      (fun middle build => flattening.Ensures (trees <* mark delimiter.closing)
        (fun after inside => after = before ++ (build inside).atoms ∧ (build inside).IsBalanced) middle) before := by
    refine ensures_map.mpr (Ensures.mono ?_ (mark_flattens delimiter.opening before))
    rintro _ opening rfl
    have inside : flattening.Ensures trees (fun middle inside => flattening.Ensures (mark delimiter.closing)
        (fun after _ => after = before ++ (TokenTree.group delimiter inside opening.start).atoms ∧
          (TokenTree.group delimiter inside opening.start).IsBalanced) middle)
          (before ++ [(.punctuation, delimiter.opening.text)]) := by
      refine Ensures.mono ?_ (tree_flattens.many _)
      rintro _ inside ⟨rfl, balanced⟩
      refine Ensures.mono ?_ (mark_flattens delimiter.closing _)
      rintro _ closing rfl
      exact ⟨by simp [atoms], balanced⟩
    exact inside
  exact opening

theorem anyGroup_flattens : anyGroup.Flattens := fun before =>
  ⟨group_flattens .paren before, group_flattens .bracket before, group_flattens .brace before⟩

theorem eq_closing {delimiter : Delimiter} {punctuation : Punctuation} (same : punctuation.text = delimiter.closing.text) :
    punctuation = delimiter.closing := by
  revert same
  cases delimiter <;> cases punctuation <;> decide

/-- A token that is no closing bracket is a tree of its own. -/
theorem satisfying_flattens {wanted : Terminal → Bool}
    (noClosing : ∀ delimiter : Delimiter, wanted (.mark delimiter.closing) = false) :
    Flattens ((.leaf ∘ Leaf.ofToken) <$> satisfying wanted) := by
  rintro before ⟨terminal, text, start, stop⟩ genuine accepted
  refine ⟨rfl, Bool.eq_false_iff.mpr fun closes => ?_⟩
  obtain ⟨delimiter, -, same⟩ := List.any_eq_true.mp closes
  obtain ⟨isMark, isClosing⟩ := Prod.mk.inj (of_decide_eq_true same)
  cases terminal with
  | mark punctuation =>
    have sameText : punctuation.text = delimiter.closing.text := Eq.trans (Eq.symm genuine) isClosing
    rw [eq_closing sameText] at accepted
    exact Bool.noConfusion ((noClosing delimiter).symm.trans accepted)
  | _ => cases isMark

theorem plainLeaf_flattens : plainLeaf.Flattens := satisfying_flattens (by rintro ⟨⟩ <;> rfl)

theorem treeInStatement_flattens : treeInStatement.Flattens := fun before =>
  ⟨anyGroup_flattens before, plainLeaf_flattens before⟩

theorem treeRule_flattens : treeRule.Flattens := by
  have noClosing : ∀ delimiter : Delimiter, decide (Terminal.mark delimiter.closing = .mark .semicolon) = false := by
    rintro ⟨⟩ <;> rfl
  have semicolon : Flattens ((.leaf ∘ Leaf.ofToken) <$> satisfying fun terminal => decide (terminal = .mark .semicolon)) :=
    satisfying_flattens noClosing
  exact fun before => ⟨anyGroup_flattens before, plainLeaf_flattens before, semicolon before⟩

theorem rules_flatten : flattening.KeptBy rules := by
  intro which before _
  cases which with
  | tree => exact treeRule_flattens before
  | _ => exact Ensures.ofForall (fun _ _ => trivial) (fun _ _ => trivial) before

/-- The tokens of the trees that are read from some tokens are those tokens. -/
theorem atomsOfAll_of_read? {rule : Rule (List TokenTree)} (flattens : rule.FlattensAll) {tokens : List Token}
    (genuine : ∀ token ∈ tokens, token.word.IsGenuine) {found : List TokenTree} (read : rule.read? tokens = some found) :
    atomsOfAll found = tokens.map Token.atom ∧ AllBalanced found := by
  obtain ⟨same, balanced⟩ := (flattens []).sound rules_flatten genuine read
  have moved (tokens : List Token) (before : List Atom) :
      tokens.foldl flattening.move before = before ++ tokens.map Token.atom := by
    induction tokens generalizing before with
    | nil => rw [List.map_nil, List.append_nil, List.foldl_nil]
    | cons first rest step =>
      rw [List.foldl_cons, List.map_cons, List.append_cons, step]
      rfl
  rw [moved, List.nil_append, List.nil_append] at same
  exact ⟨same.symm, balanced⟩

end Rule

/-! Token trees of texts -/

/-- A token of a text is a documentation comment or is lexed as it is to its end. -/
theorem Lexing.isLexed_of_mem {text : String} {token : Token} (member : token ∈ (Lexing.ofText text).tokens)
    (noDoc : token.atom.1 ≠ .doc) : token.atom.IsLexed := by
  obtain ⟨lexeme, isLexeme, found⟩ := List.mem_filterMap.mp member
  obtain ⟨input, length, first, isText⟩ := exists_first?_of_mem_scan isLexeme
  obtain ⟨terminal, isTerminal, atom⟩ := atom_of_token? found
  rw [atom] at noDoc
  rw [isTerminal] at first
  rw [atom, isText]
  refine isLexed_of_first? (Nat.succ_pos _) first ?_
  rintro rfl
  exact noDoc rfl

namespace TokenTree

/-- Token trees are read from some of the tokens of a text, one behind another, as the arguments of an attribute or as the
length of an array. -/
structure StandIn (trees : List TokenTree) (text : String) : Prop where
  complete : (Lexing.ofText text).failure = none
  read : ∃ tokens, tokens <:+: (Lexing.ofText text).tokens ∧
    (Rule.trees.read? tokens = some trees ∨ (Grammar.several Rule.treeInStatement).read? Rule.rules tokens = some trees)

/-- Nothing in some token trees is a documentation comment. -/
def HaveNoDoc (trees : List TokenTree) : Prop := ∀ atom ∈ atomsOfAll trees, atom.1 ≠ .doc

/-- Token trees of a text close their groups, and their tokens are lexed. -/
theorem StandIn.atoms {trees : List TokenTree} {text : String} (stand : StandIn trees text) (noDoc : HaveNoDoc trees) :
    AllBalanced trees ∧ AllLexed (atomsOfAll trees) := by
  obtain ⟨tokens, inText, read⟩ := stand.read
  have genuine : ∀ token ∈ tokens, token.word.IsGenuine := fun token member =>
    Lexing.isGenuine_of_mem stand.complete token (inText.subset member)
  obtain ⟨same, balanced⟩ : atomsOfAll trees = tokens.map Token.atom ∧ AllBalanced trees := by
    rcases read with ofAttribute | ofLength
    · exact Rule.atomsOfAll_of_read? Rule.tree_flattens.many genuine ofAttribute
    · exact Rule.atomsOfAll_of_read? Rule.treeInStatement_flattens.several genuine ofLength
  refine ⟨balanced, ?_⟩
  unfold HaveNoDoc at noDoc
  rw [same] at noDoc ⊢
  exact List.forall_mem_map.mpr fun token member =>
    Lexing.isLexed_of_mem (inText.subset member) (noDoc _ (List.mem_map_of_mem member))

end TokenTree

end Exposure
