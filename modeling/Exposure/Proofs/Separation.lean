import Exposure.Proofs.OptionPieces
import Mathlib.Data.List.Basic

/-!
# Trees between commas

Trees are split at their commas wherever options, signatures and markers are read, and an empty piece is dropped wherever it
stands. A comma is idle if it ends an empty piece. The pieces of a list without idle commas, joined with commas, are the list
again, but for a comma at its end; an idle comma is passed over as if it were not there.
-/

namespace Exposure

namespace TokenTree

/-- Trees are pieces with one comma between each of them and the next. -/
inductive Joins : List (List TokenTree) → List TokenTree → Prop
  | nil : Joins [] []
  | single (piece : List TokenTree) : Joins [piece] piece
  | cons (piece : List TokenTree) {comma : TokenTree} (isComma : comma.isComma = true) {next : List TokenTree}
      {others : List (List TokenTree)} {trees : List TokenTree} (rest : Joins (next :: others) trees) :
      Joins (piece :: next :: others) (piece ++ comma :: trees)

/-- The pieces of a list, joined with commas, are the list, or all of it but a comma at its end. -/
def IsJoined (trees : List TokenTree) : Prop :=
  Joins (splitAtCommas trees) trees ∨
    ∃ most comma, trees = most ++ [comma] ∧ comma.isComma = true ∧ Joins (splitAtCommas trees) most

/-- The second list is the first without a comma that has nothing between it and the comma before it, or the beginning. -/
inductive IdleComma : List TokenTree → List TokenTree → Prop
  | intro {before after : List TokenTree} {comma : TokenTree} (isComma : comma.isComma = true)
      (idle : before.getLast?.all TokenTree.isComma = true) : IdleComma (before ++ comma :: after) (before ++ after)

/-! Joining and splitting -/

theorem Joins.push {first : TokenTree} {piece : List TokenTree} {others : List (List TokenTree)}
    {trees : List TokenTree} (joins : Joins (piece :: others) trees) : Joins ((first :: piece) :: others) (first :: trees) := by
  cases joins with
  | single => exact .single (first :: piece)
  | cons _ isComma rest => exact .cons (first :: piece) isComma rest

theorem joins_splitOnP (trees : List TokenTree) : Joins (trees.splitOnP isComma) trees := by
  induction trees with
  | nil => exact .single []
  | cons first rest step =>
    rw [List.splitOnP_cons_eq_if_modifyHead]
    obtain ⟨next, others, pieces⟩ := List.exists_cons_of_ne_nil (List.splitOnP_ne_nil isComma rest)
    rw [pieces] at step ⊢
    split
    · exact .cons [] ‹_› step
    · exact step.push

theorem isComma_of_mem_splitOnP (trees : List TokenTree) :
    ∀ piece ∈ trees.splitOnP isComma, ∀ tree ∈ piece, tree.isComma = false := by
  induction trees with
  | nil => simp
  | cons first rest step =>
    rw [List.splitOnP_cons_eq_if_modifyHead]
    obtain ⟨next, others, pieces⟩ := List.exists_cons_of_ne_nil (List.splitOnP_ne_nil isComma rest)
    rw [pieces] at step ⊢
    split
    · exact List.forall_mem_cons.mpr ⟨nofun, step⟩
    · rename_i noComma
      obtain ⟨ofNext, ofOthers⟩ := List.forall_mem_cons.mp step
      exact List.forall_mem_cons.mpr ⟨List.forall_mem_cons.mpr ⟨Bool.eq_false_iff.mpr noComma, ofNext⟩, ofOthers⟩

/-- Pieces without commas are found again when they have been joined. -/
theorem Joins.splitOnP_eq {pieces : List (List TokenTree)} {trees : List TokenTree} (joins : Joins pieces trees)
    (proper : pieces ≠ []) (free : ∀ piece ∈ pieces, ∀ tree ∈ piece, tree.isComma = false) :
    trees.splitOnP TokenTree.isComma = pieces := by
  induction joins with
  | nil => exact absurd rfl proper
  | single piece => exact List.splitOnP_eq_singleton (free piece List.mem_cons_self)
  | cons piece isComma rest again =>
    obtain ⟨ofPiece, ofRest⟩ := List.forall_mem_cons.mp free
    rw [List.splitOnP_append_cons_of_forall_mem ofPiece _ isComma, again (List.cons_ne_nil _ _) ofRest]

/-- A comma stands behind the last piece but an empty one. -/
theorem Joins.exists_of_append_nil {pieces : List (List TokenTree)} {trees : List TokenTree}
    (joins : Joins (pieces ++ [[]]) trees) (proper : pieces ≠ []) :
    ∃ most comma, trees = most ++ [comma] ∧ comma.isComma = true ∧ Joins pieces most := by
  induction pieces generalizing trees with
  | nil => exact absurd rfl proper
  | cons piece others again =>
    cases others with
    | nil =>
      cases joins with
      | cons _ isComma rest =>
        cases rest with
        | single => exact ⟨piece, _, rfl, isComma, .single piece⟩
    | cons next others =>
      cases joins with
      | cons _ isComma rest =>
        obtain ⟨most, last, rfl, isLast, joined⟩ := again rest (List.cons_ne_nil _ _)
        exact ⟨piece ++ _ :: most, last, by simp, isLast, .cons piece isComma joined⟩

/-! Idle commas -/

theorem splitAtCommas_append {before after : List TokenTree} {comma : TokenTree} (isComma : comma.isComma = true) :
    splitAtCommas (before ++ comma :: after) = splitAtCommas before ++ splitAtCommas after := by
  rw [splitAtCommas, List.splitOnP_append_cons _ _ isComma, List.filter_append, splitAtCommas, splitAtCommas]

theorem eq_nil_or_append_comma {before : List TokenTree} (idle : before.getLast?.all isComma = true) :
    before = [] ∨ ∃ init comma, before = init ++ [comma] ∧ comma.isComma = true := by
  rcases List.eq_nil_or_concat before with rfl | ⟨init, comma, rfl⟩
  · exact .inl rfl
  · exact .inr ⟨init, comma, List.concat_eq_append, by simpa using idle⟩

/-- Without an idle comma the pieces are the same. -/
theorem IdleComma.splitAtCommas_eq {trees fewer : List TokenTree} (idle : IdleComma trees fewer) :
    splitAtCommas trees = splitAtCommas fewer := by
  cases idle with
  | intro isComma idle =>
    rw [splitAtCommas_append isComma]
    rcases eq_nil_or_append_comma idle with rfl | ⟨init, last, rfl, isLast⟩
    · rfl
    · have ofInit : splitAtCommas (init ++ [last]) = splitAtCommas init :=
        (splitAtCommas_append isLast).trans (List.append_nil _)
      rw [ofInit, List.append_assoc, List.singleton_append, splitAtCommas_append isLast]

/-- A comma is idle where an empty piece stands before it. -/
theorem Joins.exists_idleComma {pieces : List (List TokenTree)} {trees : List TokenTree} (joins : Joins pieces trees)
    (empty : [] ∈ pieces.dropLast) : ∃ fewer, IdleComma trees fewer := by
  induction joins with
  | nil => cases empty
  | single piece => cases empty
  | @cons piece comma isComma next others trees rest again =>
    rw [List.dropLast_cons_cons] at empty
    rcases List.mem_cons.mp empty with rfl | later
    · have idle : IdleComma ([] ++ comma :: trees) ([] ++ trees) := .intro isComma rfl
      exact ⟨trees, idle⟩
    · obtain ⟨fewer, idle⟩ := again later
      cases idle with
      | @intro before after last isLast idle =>
        have idle' : (piece ++ comma :: before).getLast?.all TokenTree.isComma = true := by
          rcases eq_nil_or_append_comma idle with rfl | ⟨init, nearest, rfl, isNearest⟩
          · simpa using isComma
          · simpa [List.getLast?_append, List.getLast?_cons] using isNearest
        refine ⟨(piece ++ comma :: before) ++ after, ?_⟩
        have whole : IdleComma ((piece ++ comma :: before) ++ last :: after) ((piece ++ comma :: before) ++ after) :=
          .intro isLast idle'
        rwa [List.append_assoc, List.cons_append] at whole

theorem exists_idleComma_iff {trees : List TokenTree} :
    (∃ fewer, IdleComma trees fewer) ↔ [] ∈ (trees.splitOnP isComma).dropLast := by
  constructor
  · rintro ⟨_, ⟨isComma, idle⟩⟩
    rw [List.splitOnP_append_cons _ _ isComma, List.dropLast_append_of_ne_nil (List.splitOnP_ne_nil _ _)]
    apply List.mem_append_left
    rcases eq_nil_or_append_comma idle with rfl | ⟨init, last, rfl, isLast⟩
    · simp
    · rw [List.splitOnP_append_cons _ _ isLast]
      simp
  · exact (joins_splitOnP trees).exists_idleComma

theorem filter_nonempty_eq_self {pieces : List (List TokenTree)} (proper : [] ∉ pieces) :
    pieces.filter (!·.isEmpty) = pieces := by
  rw [List.filter_eq_self]
  intro piece member
  have nonempty : piece ≠ [] := fun same => proper (same ▸ member)
  simpa using nonempty

theorem isComma_of_mem_splitAtCommas (trees : List TokenTree) :
    ∀ piece ∈ splitAtCommas trees, ∀ tree ∈ piece, tree.isComma = false :=
  fun piece member => isComma_of_mem_splitOnP trees piece (List.mem_of_mem_filter member)

theorem joins_nil_iff {trees : List TokenTree} : Joins [] trees ↔ trees = [] := by
  constructor
  · rintro ⟨⟩
    rfl
  · rintro rfl
    exact .nil

/-- A list is its pieces joined, but for a comma at its end, unless it has idle commas; a comma alone is idle, and is the
one at the end too. -/
theorem isJoined_iff {trees : List TokenTree} :
    IsJoined trees ↔ (∀ fewer, ¬ IdleComma trees fewer) ∨ ∃ comma, comma.isComma = true ∧ trees = [comma] := by
  rw [← not_exists, exists_idleComma_iff]
  constructor
  · rintro (joins | ⟨most, comma, rfl, isComma, joins⟩)
    · by_cases none : splitAtCommas trees = []
      · rw [none, joins_nil_iff] at joins
        subst joins
        exact .inl (by simp)
      · rw [joins.splitOnP_eq none (isComma_of_mem_splitAtCommas trees)]
        exact .inl fun member => nil_notMem_splitAtCommas trees ((List.dropLast_sublist _).subset member)
    · by_cases none : splitAtCommas (most ++ [comma]) = []
      · rw [none, joins_nil_iff] at joins
        subst joins
        exact .inr ⟨comma, isComma, rfl⟩
      · have pieces : (most ++ [comma]).splitOnP TokenTree.isComma = splitAtCommas (most ++ [comma]) ++ [[]] := by
          rw [List.splitOnP_append_cons _ _ isComma, joins.splitOnP_eq none (isComma_of_mem_splitAtCommas _),
            List.splitOnP_nil]
        rw [pieces, List.dropLast_concat]
        exact .inl (nil_notMem_splitAtCommas _)
  · rintro (proper | ⟨comma, isComma, rfl⟩)
    -- Without an idle comma only the last piece may be empty, and then the list ends in the comma before it.
    · have whole := List.dropLast_append_getLast (List.splitOnP_ne_nil isComma trees)
      have joins := joins_splitOnP trees
      have pieces : splitAtCommas trees = (trees.splitOnP isComma).filter (!·.isEmpty) := rfl
      generalize (trees.splitOnP isComma).dropLast = init at whole proper
      generalize (trees.splitOnP isComma).getLast _ = last at whole
      rw [← whole] at joins pieces
      rw [List.filter_append, filter_nonempty_eq_self proper] at pieces
      cases last with
      | nil =>
        replace pieces : splitAtCommas trees = init := by simpa using pieces
        cases init with
        | nil =>
          cases joins
          exact .inl .nil
        | cons first others =>
          rw [IsJoined, pieces]
          exact .inr (joins.exists_of_append_nil (List.cons_ne_nil _ _))
      | cons first others =>
        replace pieces : splitAtCommas trees = init ++ [first :: others] := by simpa using pieces
        rw [IsJoined, pieces]
        exact .inl joins
    · refine .inr ⟨[], comma, rfl, isComma, ?_⟩
      have none : splitAtCommas ([] ++ comma :: []) = splitAtCommas [] ++ splitAtCommas [] := splitAtCommas_append isComma
      exact none ▸ .nil

/-- The pieces of a list, joined with commas, are the list, but for a comma at its end, exactly if none of its commas is
idle or it is a comma alone; options and overrides are read as if an idle comma were not there. -/
theorem idleComma_isPassedOver (trees : List TokenTree) :
    (IsJoined trees ↔ (∀ fewer, ¬ IdleComma trees fewer) ∨ ∃ comma, comma.isComma = true ∧ trees = [comma]) ∧
      ∀ fewer, IdleComma trees fewer →
        (∀ vocabulary before behind, Options.ofLists vocabulary (before ++ trees :: behind) =
          Options.ofLists vocabulary (before ++ fewer :: behind)) ∧
        ∀ key position, SignatureEntry.ofTree key (.group .paren trees position) =
          SignatureEntry.ofTree key (.group .paren fewer position) := by
  refine ⟨isJoined_iff, fun fewer idle => ⟨fun vocabulary before behind => ?_, fun key position => ?_⟩⟩
  · simp only [Options.ofLists, OptionPairs.ofLists_eq, List.flatMap_append, List.flatMap_cons, idle.splitAtCommas_eq]
  · rw [SignatureEntry.ofTree, idle.splitAtCommas_eq, SignatureEntry.ofTree]

/-- Of two commas in a row the second is idle, and the options are those of one comma. -/
theorem idleComma_isPassedOver_twoInARow :
    let comma := leaf ⟨.punctuation, ",", .start⟩
    let first := leaf ⟨.ident, "frozen", .start⟩
    let second := leaf ⟨.ident, "eq", .start⟩
    IdleComma [first, comma, comma, second] [first, comma, second] ∧
      Options.ofLists .ofClass [[first, comma, comma, second]] = Options.ofLists .ofClass [[first, comma, second]] := by
  intro comma first second
  have idle : IdleComma ([first, comma] ++ comma :: [second]) ([first, comma] ++ [second]) :=
    .intro (by decide) (by decide)
  exact ⟨idle, ((idleComma_isPassedOver _).2 _ idle).1 .ofClass [] []⟩

/-- A comma before the first option is dropped, and the option is accepted. -/
theorem leadingComma_isDropped :
    let comma := leaf ⟨.punctuation, ",", .start⟩
    let frozen := leaf ⟨.ident, "frozen", .start⟩
    ¬ IsJoined [comma, frozen] ∧
      ∃ options, Options.ofLists .ofClass [[comma, frozen]] = .ok options ∧ options.flags = [.frozen] := by
  intro comma frozen
  refine ⟨fun joined => ?_, _, rfl, by decide⟩
  have idle : IdleComma ([] ++ comma :: [frozen]) ([] ++ [frozen]) := .intro (by decide) rfl
  rcases isJoined_iff.mp joined with none | ⟨comma, -, alone⟩
  · exact none _ idle
  · simp at alone

end TokenTree

end Exposure
