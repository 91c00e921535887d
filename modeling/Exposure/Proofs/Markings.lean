import Exposure.Proofs.Lookahead
import Exposure.Proofs.Outcome
import Exposure.Report.Markup
import Mathlib.Data.List.TakeWhile

/-!
# What is shown of a text with markup

A text is shown as it is when it holds no tag, no backslash before a bracket, no code of an emoji and no control that is
dropped (`Report.Markup.IsLiteral`). Any of these takes characters away for which no others stand in: an emoji brings none of
the marks that codes, tags and escapes are made of. So a text that is shown with all its marks is literal
(`Report.Markup.isLiteral_of_shown`), and the literal texts are exactly those that are shown as they are.
-/

namespace Exposure

namespace Report.Markup

/-- A character that may be missing from what is shown: a mark of a tag, an escape or a code, or a control. -/
def isVolatile (char : Char) : Bool := char = '[' || char = '\\' || char = ':' || isDropped char

end Report.Markup

open Report.Markup (isVolatile)

namespace Text.Emoji

/-! Codes of emoji -/

theorem codePoints_stable : (codePoints.all fun codes => codes.all fun code => !isVolatile (Char.ofNat code)) = true := by
  decide +kernel

/-- No emoji holds a volatile character. -/
theorem not_isVolatile_of_ofName? {name emoji : List Char} (found : ofName? name = some emoji) {char : Char}
    (member : char ∈ emoji) : isVolatile char = false := by
  obtain ⟨before, behind, split, -⟩ := List.lookup_eq_some_iff.mp found
  have listed : (_, emoji) ∈ table := split ▸ List.mem_append_right before List.mem_cons_self
  obtain ⟨codes, isListed, rfl⟩ := List.mem_map.mp (List.of_mem_zip listed).2
  obtain ⟨code, isCode, rfl⟩ := List.mem_map.mp member
  have stable := List.all_eq_true.mp (List.all_eq_true.mp codePoints_stable codes isListed) code isCode
  simpa using stable

theorem not_isVolatile_of_ofCode? {code emoji : List Char} (found : ofCode? code = some emoji) {char : Char}
    (member : char ∈ emoji) : isVolatile char = false := by
  rw [ofCode?] at found
  split at found
  · rename_i ending selector chosen
    obtain ⟨bare, ofName, rfl⟩ := Option.map_eq_some_iff.mp found
    rcases List.mem_append.mp member with inside | last
    · exact not_isVolatile_of_ofName? ofName inside
    · have isSelector : (ending, selector) ∈ variants := List.mem_of_find?_eq_some chosen
      have stable : ∀ variant ∈ variants, isVolatile variant.2 = false := by decide
      rw [List.mem_singleton.mp last]
      exact stable _ isSelector
  · exact not_isVolatile_of_ofName? found member

/-- The inside of a code has neither colons nor blanks. -/
def IsCode (code : List Char) : Prop := ∀ char ∈ code, char ≠ ':' ∧ isBlank char = false

/-- A text without codes of emoji, read from left to right: a colon that a code stands behind is read together with the code
and the next colon, and the code is not the name of an emoji. -/
inductive IsUncoded : List Char → Prop
  | nil : IsUncoded []
  | other {char : Char} {rest : List Char} (noColon : char ≠ ':') (uncoded : IsUncoded rest) : IsUncoded (char :: rest)
  | lone {rest : List Char} (alone : ∀ code behind, IsCode code → rest ≠ code ++ ':' :: behind) (uncoded : IsUncoded rest) :
      IsUncoded (':' :: rest)
  | unknown {code rest : List Char} (isCode : IsCode code) (unnamed : ofCode? code = none) (uncoded : IsUncoded rest) :
      IsUncoded (':' :: (code ++ ':' :: rest))

theorem code?_eq_some_iff {text code : List Char} :
    code? text = some code ↔ IsCode code ∧ ∃ behind, text = code ++ ':' :: behind := by
  constructor
  · intro found
    rw [code?] at found
    split at found
    · rename_i closed
      obtain rfl := Option.some.inj found
      refine ⟨fun char member => by simpa using List.mem_takeWhile_imp member, ?_⟩
      obtain ⟨behind, split⟩ := List.head?_eq_some_iff.mp closed
      exact ⟨behind, split ▸ (List.prefix_iff_eq_append.mp (List.takeWhile_prefix _)).symm⟩
    · cases found
  · rintro ⟨isCode, behind, rfl⟩
    have whole : (code ++ ':' :: behind).takeWhile (fun char => char ≠ ':' && !isBlank char) = code := by
      rw [List.takeWhile_append_of_pos fun char member => by simpa using isCode char member]
      simp
    rw [code?]
    simp only [whole]
    simp

theorem code?_eq_none_iff {text : List Char} :
    code? text = none ↔ ∀ code behind, IsCode code → text ≠ code ++ ':' :: behind := by
  rw [Option.eq_none_iff_forall_ne_some]
  simp only [ne_eq, code?_eq_some_iff]
  grind

theorem replaceFrom_drop (inside : Nat) (text : List Char) : replaceFrom inside text = replaceFrom 0 (text.drop inside) := by
  induction inside generalizing text with
  | zero => rfl
  | succ inside step =>
    cases text with
    | nil => rfl
    | cons first rest => exact step rest

theorem replace_cons {char : Char} (noColon : char ≠ ':') (rest : List Char) :
    replace (char :: rest) = char :: replace rest :=
  if_neg noColon

theorem replace_lone {rest : List Char} (alone : code? rest = none) : replace (':' :: rest) = ':' :: replace rest := by
  rw [replace, replaceFrom, if_pos rfl, alone]
  rfl

theorem replace_code {code rest : List Char} (isCode : IsCode code) :
    replace (':' :: (code ++ ':' :: rest)) = (ofCode? code).getD (':' :: code ++ [':']) ++ replace rest := by
  rw [replace, replaceFrom, if_pos rfl, code?_eq_some_iff.mpr ⟨isCode, rest, rfl⟩]
  have behind : (code ++ ':' :: rest).drop (code.length + 1) = rest := by simp
  simp only [replaceFrom_drop (code.length + 1), behind]
  rfl

theorem IsUncoded.replace_eq {text : List Char} (uncoded : IsUncoded text) : replace text = text := by
  induction uncoded with
  | nil => rfl
  | other noColon _ step => rw [replace_cons noColon, step]
  | lone alone _ step => rw [replace_lone (code?_eq_none_iff.mpr alone), step]
  | unknown isCode unnamed _ step => simp [replace_code isCode, unnamed, step]

theorem count_of_ofCode? {code emoji : List Char} (found : ofCode? code = some emoji) {char : Char}
    (volatile : isVolatile char) : emoji.count char = 0 := by
  refine List.count_eq_zero.mpr fun member => ?_
  rw [not_isVolatile_of_ofCode? found member] at volatile
  cases volatile

/-- Codes of emoji take volatile characters away and bring none, and one that is replaced takes its colons with it. -/
theorem count_replace (text : List Char) :
    (∀ char, isVolatile char → (replace text).count char ≤ text.count char) ∧
      (text.count ':' ≤ (replace text).count ':' → IsUncoded text) := by
  induction size : text.length using Nat.strongRecOn generalizing text with
  | _ length again =>
    cases text with
    | nil => exact ⟨fun _ _ => Nat.le_refl 0, fun _ => .nil⟩
    | cons first rest =>
      rw [List.length_cons] at size
      obtain ⟨fewer, kept⟩ := again rest.length (by omega) rest rfl
      by_cases isColon : first = ':'
      · subst isColon
        cases found : code? rest with
        | none =>
          rw [replace_lone found]
          refine ⟨fun char isVolatile => ?_, fun same => .lone (code?_eq_none_iff.mp found) (kept ?_)⟩
          · simpa [List.count_cons] using fewer char isVolatile
          · simpa [List.count_cons] using same
        | some code =>
          obtain ⟨isCode, behind, rfl⟩ := code?_eq_some_iff.mp found
          rw [List.length_append, List.length_cons] at size
          obtain ⟨fewer, kept⟩ := again behind.length (by omega) behind rfl
          rw [replace_code isCode]
          cases named : ofCode? code with
          | none =>
            refine ⟨fun char isVolatile => ?_, fun same => .unknown isCode named (kept ?_)⟩
            · have := fewer char isVolatile
              simp only [Option.getD_none, List.count_append, List.count_cons, List.count_nil]
              omega
            · simp only [Option.getD_none, List.count_append, List.count_cons, List.count_nil] at same
              omega
          | some emoji =>
            refine ⟨fun char isVolatile => ?_, fun same => ?_⟩
            · have := fewer char isVolatile
              simp only [Option.getD_some, List.count_append, List.count_cons, count_of_ofCode? named isVolatile]
              omega
            · have colons : emoji.count ':' = 0 := count_of_ofCode? named rfl
              have := fewer ':' rfl
              simp [List.count_append, colons] at same
              omega
      · rw [replace_cons isColon]
        refine ⟨fun char isVolatile => ?_, fun same => .other isColon (kept ?_)⟩
        · simpa [List.count_cons] using fewer char isVolatile
        · simpa [List.count_cons_of_ne isColon] using same

end Text.Emoji

namespace Report.Markup

/-! Tags and escapes -/

/-- Up to the first closing bracket a text without opening brackets has no bracket at all. -/
theorem head?_dropWhile_closing {inside : List Char} (noOpening : '[' ∉ inside) (behind : List Char) :
    ((inside ++ ']' :: behind).dropWhile fun char => char ≠ '[' && char ≠ ']').head? = some ']' := by
  induction inside with
  | nil => rfl
  | cons one others step =>
    rw [List.mem_cons, not_or] at noOpening
    by_cases closes : one = ']'
    · simp [closes]
    · simpa [closes, Ne.symm noOpening.1] using step noOpening.2

theorem tag?_eq_none_iff {text : List Char} : tag? text = none ↔
    ∀ first inside behind, text = first :: (inside ++ ']' :: behind) → beginsTag first → '[' ∈ inside := by
  cases text with
  | nil => exact ⟨fun _ _ _ _ same => (List.cons_ne_nil _ _ same.symm).elim, fun _ => rfl⟩
  | cons first rest =>
    have left := Lexeme.drop_run (fun char => char ≠ '[' && char ≠ ']') rest
    simp only [Lexeme.run] at left
    simp only [tag?, left]
    constructor
    · rintro none _ inside behind ⟨⟩ begins
      by_contra noOpening
      rw [if_pos begins, if_pos (head?_dropWhile_closing noOpening behind)] at none
      cases none
    · intro noTag
      split
      · rename_i begins
        split
        · rename_i closed
          obtain ⟨behind, split⟩ := List.head?_eq_some_iff.mp closed
          have whole := rest.takeWhile_append_dropWhile (p := fun char => char ≠ '[' && char ≠ ']')
          have opening := noTag first _ behind (by rw [← split, whole]) begins
          simpa using List.mem_takeWhile_imp opening
        · rfl
      · rfl

/-- The inside of a tag is what stands before its closing bracket. -/
theorem eq_append_of_tag? {text inside : List Char} (found : tag? text = some inside) :
    ∃ behind, text = inside ++ ']' :: behind := by
  cases text with
  | nil => cases found
  | cons first rest =>
    rw [tag?] at found
    split at found
    · simp only at found
      split at found
      · rename_i closed
        obtain rfl := Option.some.inj found
        obtain ⟨body, behind, split, plain⟩ := Lexeme.exists_of_head?_drop_run closed
        have whole : body = rest.takeWhile fun char => char ≠ '[' && char ≠ ']' := by
          rw [split, List.takeWhile_append_of_pos plain]
          simp
        exact ⟨behind, by rw [List.cons_append, ← whole, ← split]⟩
      · cases found
    · cases found

/-- A text without tags and escapes, read from left to right: no bracket begins a tag, and none stands behind a backslash. -/
inductive IsUnmarked : Bool → List Char → Prop
  | nil (escaped : Bool) : IsUnmarked escaped []
  | backslash {escaped : Bool} {rest : List Char} (unmarked : IsUnmarked true rest) : IsUnmarked escaped ('\\' :: rest)
  | bracket {rest : List Char}
      (noTag : ∀ first inside behind, rest = first :: (inside ++ ']' :: behind) → beginsTag first → '[' ∈ inside)
      (unmarked : IsUnmarked false rest) : IsUnmarked false ('[' :: rest)
  | other {escaped : Bool} {char : Char} {rest : List Char} (noBackslash : char ≠ '\\') (noBracket : char ≠ '[')
      (unmarked : IsUnmarked false rest) : IsUnmarked escaped (char :: rest)

/-- The plain text of a piece. -/
def Piece.plainText : Piece → List Char
  | plain text => text
  | _ => []

theorem piecesFrom_backslash (run : List Char) (pending : Nat) (rest : List Char) :
    piecesFrom 0 run pending ('\\' :: rest) = piecesFrom 0 run (pending + 1) rest := if_pos rfl

theorem piecesFrom_bracket {rest : List Char} (noTag : tag? rest = none) (run : List Char) (pending : Nat) :
    piecesFrom 0 run pending ('[' :: rest) = piecesFrom 0 (run ++ backslashes (pending - 1) ++ ['[']) 0 rest := by
  rw [piecesFrom, if_neg (by decide), if_pos rfl, noTag]

theorem piecesFrom_other {char : Char} (noBackslash : char ≠ '\\') (noBracket : char ≠ '[') (run : List Char)
    (pending : Nat) (rest : List Char) :
    piecesFrom 0 run pending (char :: rest) = piecesFrom 0 (run ++ backslashes pending ++ [char]) 0 rest := by
  rw [piecesFrom, if_neg noBackslash, if_neg noBracket]

/-- A text without tags and escapes is one piece of plain text. -/
theorem IsUnmarked.piecesFrom_eq {escaped : Bool} {rest : List Char} (unmarked : IsUnmarked escaped rest)
    (run : List Char) {pending : Nat} (before : escaped = decide (0 < pending)) :
    piecesFrom 0 run pending rest = [.plain (run ++ backslashes pending ++ rest)] := by
  induction unmarked generalizing run pending with
  | nil => simp [piecesFrom]
  | backslash _ step =>
    rw [piecesFrom_backslash, step run (by simp)]
    simp [backslashes, List.replicate_succ']
  | bracket noTag _ step =>
    have none : pending = 0 := by simpa using before.symm
    rw [piecesFrom_bracket (tag?_eq_none_iff.mpr noTag), step _ (by simp), none]
    simp [backslashes]
  | other noBackslash noBracket _ step =>
    rw [piecesFrom_other noBackslash noBracket, step _ (by simp)]
    simp [backslashes]

theorem piecesFrom_drop (inside : Nat) (run : List Char) (pending : Nat) (rest : List Char) :
    piecesFrom inside run pending rest = piecesFrom 0 run pending (rest.drop inside) := by
  induction inside generalizing rest with
  | zero => rfl
  | succ inside step =>
    cases rest with
    | nil => rfl
    | cons first rest => exact step rest

/-- The plain text of some pieces. -/
def plainText (pieces : List Piece) : List Char := pieces.flatMap Piece.plainText

/-- Behind an odd number of backslashes a tag is plain text, and elsewhere it is none. -/
theorem plainText_tag {inside behind : List Char} (found : tag? (inside ++ ']' :: behind) = some inside) (run : List Char)
    (pending : Nat) : plainText (piecesFrom 0 run pending ('[' :: (inside ++ ']' :: behind))) =
      run ++ backslashes (pending / 2) ++ (if pending % 2 = 1 then '[' :: inside ++ [']'] else []) ++
        plainText (piecesFrom 0 [] 0 behind) := by
  have ofTag : (ofTag inside).plainText = [] := by
    unfold Markup.ofTag
    simp only
    split <;> rfl
  have left : (inside ++ ']' :: behind).drop (inside.length + 1) = behind := by simp
  rw [piecesFrom, if_neg (by decide), if_pos rfl, found]
  simp only [plainText, List.flatMap_cons, piecesFrom_drop (inside.length + 1), left]
  split
  · simp [Piece.plainText]
  · rw [ofTag]
    simp [Piece.plainText]

theorem count_backslashes (char : Char) (count : Nat) :
    (backslashes count).count char = if '\\' == char then count else 0 :=
  List.count_replicate

/-- A tag costs a bracket, or a backslash if it is escaped. -/
theorem count_plainText_tag {inside behind : List Char} (found : tag? (inside ++ ']' :: behind) = some inside)
    (run : List Char) (pending : Nat)
    (fewer : ∀ char, (plainText (piecesFrom 0 [] 0 behind)).count char ≤ behind.count char) :
    let plain := plainText (piecesFrom 0 run pending ('[' :: (inside ++ ']' :: behind)))
    let whole := run ++ backslashes pending ++ '[' :: (inside ++ ']' :: behind)
    (∀ char, plain.count char ≤ whole.count char) ∧
      (plain.count '[' < whole.count '[' ∨ plain.count '\\' < whole.count '\\') := by
  intro plain whole
  have ofPlain : plain = _ := plainText_tag found run pending
  rw [ofPlain]
  constructor
  · intro char
    have := fewer char
    split <;> simp only [whole, List.count_append, List.count_cons, List.count_nil, count_backslashes] <;>
      split_ifs <;> omega
  · by_cases isEscaped : pending % 2 = 1
    · have := fewer '\\'
      refine .inr ?_
      simp [whole, isEscaped, count_backslashes]
      omega
    · have := fewer '['
      refine .inl ?_
      simp [whole, isEscaped, count_backslashes]
      omega

/-- The plain text of the pieces has no other characters than the text, and a tag or an escape costs it a bracket or a
backslash. -/
theorem count_piecesFrom (run : List Char) (pending : Nat) (rest : List Char) :
    let plain := plainText (piecesFrom 0 run pending rest)
    let whole := run ++ backslashes pending ++ rest
    (∀ char, plain.count char ≤ whole.count char) ∧
      (whole.count '[' ≤ plain.count '[' → whole.count '\\' ≤ plain.count '\\' →
        IsUnmarked (decide (0 < pending)) rest) := by
  induction size : rest.length using Nat.strongRecOn generalizing run pending rest with
  | _ length again =>
    cases rest with
    | nil => exact ⟨fun char => by simp [plainText, piecesFrom, Piece.plainText], fun _ _ => .nil _⟩
    | cons first rest =>
      rw [List.length_cons] at size
      by_cases isBackslash : first = '\\'
      · subst isBackslash
        have step := again rest.length (by omega) run (pending + 1) rest rfl
        have same : run ++ backslashes pending ++ '\\' :: rest = run ++ backslashes (pending + 1) ++ rest := by
          simp [backslashes, List.replicate_succ']
        rw [piecesFrom_backslash, same]
        exact ⟨step.1, fun brackets escapes => .backslash (by simpa using step.2 brackets escapes)⟩
      by_cases isBracket : first = '['
      · subst isBracket
        cases found : tag? rest with
        | none =>
          obtain ⟨fewer, kept⟩ := again rest.length (by omega) (run ++ backslashes (pending - 1) ++ ['[']) 0 rest rfl
          rw [piecesFrom_bracket found]
          simp only [List.count_append, List.count_cons, List.count_nil, count_backslashes] at fewer kept ⊢
          refine ⟨fun char => ?_, fun brackets escapes => ?_⟩
          · have := fewer char
            split_ifs at this ⊢ <;> omega
          · have bracketsLeft := fewer '['
            have escapesLeft := fewer '\\'
            simp at bracketsLeft escapesLeft brackets escapes kept
            obtain rfl : pending = 0 := by omega
            exact .bracket (tag?_eq_none_iff.mp found) (kept (by omega) (by omega))
        | some inside =>
          obtain ⟨behind, rfl⟩ := eq_append_of_tag? found
          rw [List.length_append, List.length_cons] at size
          obtain ⟨fewer, -⟩ := again behind.length (by omega) [] 0 behind rfl
          obtain ⟨fewer, lost⟩ := count_plainText_tag found run pending (by simpa [backslashes] using fewer)
          exact ⟨fewer, fun brackets escapes => by omega⟩
      · obtain ⟨fewer, kept⟩ := again rest.length (by omega) (run ++ backslashes pending ++ [first]) 0 rest rfl
        rw [piecesFrom_other isBackslash isBracket]
        have same : run ++ backslashes pending ++ first :: rest =
            run ++ backslashes pending ++ [first] ++ backslashes 0 ++ rest := by
          simp [backslashes]
        rw [same]
        exact ⟨fewer, fun brackets escapes => .other isBackslash isBracket (by simpa using kept brackets escapes)⟩

/-! What is shown -/

/-- A text without markup, codes of emoji and dropped controls. -/
structure IsLiteral (text : List Char) : Prop where
  unmarked : IsUnmarked false text
  uncoded : Text.Emoji.IsUncoded text
  undropped : ∀ char ∈ text, isDropped char = false

/-- The styles have no part in what is shown of the pieces, if anything is. -/
theorem eq_of_showFrom {styles : List OpenStyle} {pieces : List Piece} {text : List Char}
    (isShown : showFrom styles pieces = .ok text) :
    text = pieces.flatMap fun piece => Text.Emoji.replace piece.plainText := by
  induction pieces generalizing styles text with
  | nil =>
    rw [showFrom] at isShown
    obtain ⟨-, -, same⟩ := Outcome.bind_eq_ok.mp isShown
    exact (Except.ok.inj same).symm
  | cons piece rest step =>
    cases piece with
    | plain run =>
      rw [showFrom] at isShown
      obtain ⟨behind, isShown, same⟩ := Outcome.bind_eq_ok.mp isShown
      rw [← Except.ok.inj same, step isShown]
      rfl
    | opening name parameters =>
      rw [showFrom] at isShown
      obtain ⟨_, -, isShown⟩ := Outcome.bind_eq_ok.mp isShown
      exact step isShown
    | closing name =>
      have found : ∃ wanted style others, OpenStyle.take? wanted styles = some (style, others) ∧
          (do style.checkArguments; let text ← showFrom others rest; style.checkFullName; return text) = .ok text := by
        rw [showFrom] at isShown
        simp only at isShown
        split at isShown <;>
          obtain ⟨wanted, -, isShown⟩ := Outcome.bind_eq_ok.mp isShown <;>
          split at isShown <;> first | cases isShown | exact ⟨wanted, _, _, ‹_›, isShown⟩
      obtain ⟨_, style, others, -, isShown⟩ := found
      obtain ⟨-, -, isShown⟩ := Outcome.bind_eq_ok.mp isShown
      obtain ⟨behind, isShown, checked⟩ := Outcome.bind_eq_ok.mp isShown
      obtain ⟨-, -, same⟩ := Outcome.bind_eq_ok.mp checked
      exact Except.ok.inj same ▸ step isShown

theorem eq_of_shown {text : String} {out : List Char} (isShown : shown text = .ok out) :
    out = ((pieces text).flatMap fun piece => Text.Emoji.replace piece.plainText).filter (!isDropped ·) := by
  obtain ⟨read, isShown, same⟩ := Outcome.bind_eq_ok.mp isShown
  rw [← eq_of_showFrom isShown]
  exact (Except.ok.inj same).symm

theorem shown_of_isLiteral {text : String} (literal : IsLiteral text.toList) : shown text = .ok text.toList := by
  have alone : pieces text = [.plain text.toList] := literal.unmarked.piecesFrom_eq [] rfl
  have kept : text.toList.filter (!isDropped ·) = text.toList :=
    List.filter_eq_self.mpr fun char member => by rw [literal.undropped char member]; rfl
  have read : showFrom [] [.plain text.toList] = .ok text.toList := by
    simp [showFrom, literal.uncoded.replace_eq, pure, Except.pure, bind, Except.bind]
  rw [shown, alone, read]
  simp [kept, pure, Except.pure, bind, Except.bind]

theorem count_flatMap_replace_le (pieces : List Piece) {char : Char} (volatile : isVolatile char) :
    (pieces.flatMap fun piece => Text.Emoji.replace piece.plainText).count char ≤ (plainText pieces).count char := by
  induction pieces with
  | nil => exact Nat.le_refl 0
  | cons piece rest step =>
    have first := (Text.Emoji.count_replace piece.plainText).1 char volatile
    simp only [plainText, List.flatMap_cons, List.count_append] at step ⊢
    omega

/-- What is shown has no more marks and controls than the text. -/
theorem count_shown_le {text : String} {out : List Char} (isShown : shown text = .ok out) {char : Char}
    (volatile : isVolatile char) : out.count char ≤ text.toList.count char := by
  calc out.count char
    _ ≤ ((pieces text).flatMap fun piece => Text.Emoji.replace piece.plainText).count char :=
        eq_of_shown isShown ▸ List.Sublist.count_le char List.filter_sublist
    _ ≤ (plainText (pieces text)).count char := count_flatMap_replace_le _ volatile
    _ ≤ text.toList.count char := (count_piecesFrom [] 0 text.toList).1 char

/-- A text that is shown with all its marks and controls has neither markup nor codes nor dropped controls. -/
theorem isLiteral_of_shown {text : String} {out : List Char} (isShown : shown text = .ok out)
    (kept : ∀ char, isVolatile char → text.toList.count char ≤ out.count char) : IsLiteral text.toList := by
  have same := eq_of_shown isShown
  have fewer (char : Char) : out.count char ≤
      ((pieces text).flatMap fun piece => Text.Emoji.replace piece.plainText).count char :=
    same ▸ List.Sublist.count_le char List.filter_sublist
  have inPieces {char : Char} (volatile : isVolatile char) :
      text.toList.count char ≤ (plainText (pieces text)).count char :=
    ((kept char volatile).trans (fewer char)).trans (count_flatMap_replace_le _ volatile)
  have unmarked : IsUnmarked false text.toList :=
    (count_piecesFrom [] 0 text.toList).2 (inPieces rfl) (inPieces rfl)
  have alone : pieces text = [.plain text.toList] := unmarked.piecesFrom_eq [] rfl
  simp only [alone, List.flatMap_singleton, Piece.plainText] at same fewer
  refine ⟨unmarked, (Text.Emoji.count_replace text.toList).2 ((kept ':' rfl).trans (fewer ':')), fun char member => ?_⟩
  by_contra dropped
  rw [Bool.not_eq_false] at dropped
  have volatile : isVolatile char := by simp [isVolatile, dropped]
  have remains : char ∈ out := by
    rw [← List.count_pos_iff] at member ⊢
    exact member.trans_le (kept char volatile)
  rw [same] at remains
  simpa [dropped] using (List.mem_filter.mp remains).2

/-- The literal texts are those that are shown as they are. -/
theorem shown_eq_self_iff {text : String} : shown text = .ok text.toList ↔ IsLiteral text.toList :=
  ⟨fun isShown => isLiteral_of_shown isShown fun _ _ => Nat.le_refl _, shown_of_isLiteral⟩

/-! Styles -/

theorem exists_isColor {word : List Char} (noNumbers : Color.argument? "rgb".toList word = none) :
    ∃ found, Color.isColor word = .ok found := by
  unfold Color.isColor
  split
  · exact ⟨true, rfl⟩
  · rw [noNumbers]
    exact ⟨false, rfl⟩

/-- A word that names neither an effect nor what is done with the next word names a color, or the style is none. -/
theorem readFrom_word {word : List Char} (noNumbers : Color.argument? "rgb".toList word = none)
    (isLower : Text.LetterCase.lower word = word) (noOperator : word ∉ ["on".toList, "not".toList, "link".toList])
    (noEffect : Effect.ofName? word = none) (style : Style) :
    Style.readFrom style [word] = .ok (some { style with color := some word }) ∨
      Style.readFrom style [word] = .ok none := by
  simp only [List.mem_cons, List.not_mem_nil, or_false, not_or] at noOperator
  obtain ⟨noOn, noNot, noLink⟩ := noOperator
  obtain ⟨found, isColor⟩ := exists_isColor noNumbers
  rw [Style.readFrom.eq_def]
  simp only [isLower]
  rw [if_neg noOn, if_neg noNot, if_neg noLink, noEffect]
  simp only [isColor]
  cases found with
  | true => exact .inl rfl
  | false => exact .inr rfl

theorem showFrom_opening {name style : List Char} (normal : Style.normalize name = .ok style) (styles : List OpenStyle)
    (parameters : Option (List Char)) (rest : List Piece) :
    showFrom styles (.opening name parameters :: rest) = showFrom (⟨style, parameters⟩ :: styles) rest := by
  rw [showFrom, normal]
  rfl

section Enclosed

variable {name : List Char} (normal : Style.normalize name = .ok name) (noAction : name.head? ≠ some '@')

include normal noAction

theorem checkFullName_eq_ok : OpenStyle.checkFullName ⟨name, none⟩ = .ok () := by
  have isStyle : OpenStyle.isAction ⟨name, none⟩ = false := by simpa [OpenStyle.isAction] using noAction
  rw [OpenStyle.checkFullName, isStyle]
  simp only [OpenStyle.fullName, normal]
  rfl

/-- A style without parameters that is opened and closed around a text has no part in what is shown. -/
theorem showFrom_enclosed (named : name.isEmpty = false) (styles : List OpenStyle) (text : List Char) (rest : List Piece) :
    showFrom styles (.opening name none :: .plain text :: .plain [] :: .closing name :: rest) =
      (do return Text.Emoji.replace text ++ (← showFrom styles rest)) := by
  have isStyle : OpenStyle.isAction ⟨name, none⟩ = false := by simpa [OpenStyle.isAction] using noAction
  have arguments : OpenStyle.checkArguments ⟨name, none⟩ = .ok () := by simp [OpenStyle.checkArguments, isStyle]
  have innermost : OpenStyle.take? (some name) (⟨name, none⟩ :: styles) = some (⟨name, none⟩, styles) := by
    simp [OpenStyle.take?]
  have ended : showFrom (⟨name, none⟩ :: styles) (.closing name :: rest) = showFrom styles rest := by
    rw [showFrom, named]
    simp only [normal, Functor.map, Except.map, bind, Except.bind, innermost, arguments,
      checkFullName_eq_ok normal noAction, pure, Except.pure]
    cases showFrom styles rest <;> rfl
  rw [showFrom_opening normal, showFrom, showFrom, ended]
  cases showFrom styles rest <;> rfl

/-- A style without parameters that is never closed has no part in what is shown either. -/
theorem showFrom_unclosed (text : List Char) :
    showFrom [] [.opening name none, .plain text] = .ok (Text.Emoji.replace text) := by
  rw [showFrom_opening normal, showFrom, showFrom, List.forM_eq_forM, List.forM_cons, checkFullName_eq_ok normal noAction]
  simp [bind, Except.bind, pure, Except.pure]

end Enclosed

end Report.Markup

end Exposure
