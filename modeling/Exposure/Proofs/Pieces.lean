import Exposure.Proofs.Lookahead
import Exposure.Proofs.Stretch

/-!
A text as the sequence of its lexemes: a stretch of lexemes that ends with a closing brace or a semicolon is found again
when its characters are a text of their own.
-/

namespace Exposure

/-- Passing characters moves the line by the number of newlines among them. -/
theorem Position.line_past (position : Position) (passed : List Char) :
    (position.past passed).line = position.line + passed.count '\n' := by
  induction passed generalizing position with
  | nil => rfl
  | cons first rest step =>
    show ((position.after first).past rest).line = _
    rw [step, List.count_cons, after]
    by_cases feed : first = '\n'
    · simp only [feed, if_true, beq_self_eq_true]
      omega
    · simp [feed]

/-- A lexeme without its position. -/
abbrev Piece := LexemeClass × List Char

namespace Lexeme

/-- A text begins with some pieces, each the first lexeme of what is left, and goes on with a rest. -/
inductive Pieces : List Char → List Piece → List Char → Prop
  | nil (rest : List Char) : Pieces rest [] rest
  | cons {text : List Char} {kind : LexemeClass} {length : Nat} {others : List Piece} {rest : List Char}
      (first : first? text = some (kind, length + 1)) (behind : Pieces (text.drop (length + 1)) others rest) :
      Pieces text ((kind, text.take (length + 1)) :: others) rest

/-- The characters of some pieces. -/
def chars (pieces : List Piece) : List Char := pieces.flatMap Prod.snd

/-- Put pieces one behind another, from a position on. -/
def place (position : Position) : List Piece → List Lexeme
  | [] => []
  | (kind, text) :: others => ⟨kind, text, position⟩ :: place (position.past text) others

/-- The tokens of some pieces. -/
def tokensFrom (position : Position) (pieces : List Piece) : List Token := (place position pieces).filterMap token?

@[simp] theorem chars_nil : chars [] = [] := rfl

@[simp] theorem chars_cons (kind : LexemeClass) (text : List Char) (others : List Piece) :
    chars ((kind, text) :: others) = text ++ chars others := rfl

theorem past_append (position : Position) (one two : List Char) :
    position.past (one ++ two) = (position.past one).past two := List.foldl_append

theorem place_append (position : Position) (one two : List Piece) :
    place position (one ++ two) = place position one ++ place (position.past (chars one)) two := by
  induction one generalizing position with
  | nil => rfl
  | cons first others step =>
    obtain ⟨kind, text⟩ := first
    rw [List.cons_append, place, place, step, chars_cons, past_append, List.cons_append]

theorem map_text_place (position : Position) (pieces : List Piece) :
    (place position pieces).map Lexeme.text = pieces.map Prod.snd := by
  induction pieces generalizing position with
  | nil => rfl
  | cons first others step => exact congrArg (_ :: ·) (step _)

namespace Pieces

theorem cons_append {piece behind rest : List Char} {kind : LexemeClass} {length : Nat} {others : List Piece}
    (first : first? (piece ++ behind) = some (kind, length + 1)) (size : piece.length = length + 1)
    (covers : Pieces behind others rest) : Pieces (piece ++ behind) ((kind, piece) :: others) rest := by
  have left : Pieces ((piece ++ behind).drop (length + 1)) others rest := by rwa [← size, List.drop_left]
  have whole := Pieces.cons first left
  rwa [← size, List.take_left] at whole

theorem eq_append {text rest : List Char} {pieces : List Piece} (covers : Pieces text pieces rest) :
    text = chars pieces ++ rest := by
  induction covers with
  | nil rest => rfl
  | cons _ _ step => rw [chars_cons, List.append_assoc, ← step, List.take_append_drop]

theorem append_iff {text rest : List Char} {one two : List Piece} :
    Pieces text (one ++ two) rest ↔ ∃ middle, Pieces text one middle ∧ Pieces middle two rest := by
  induction one generalizing text with
  | nil =>
    constructor
    · intro covers
      exact ⟨text, .nil text, covers⟩
    · rintro ⟨middle, nothing, covers⟩
      cases nothing
      exact covers
  | cons first others step =>
    constructor
    · rintro (_ | ⟨first, behind⟩)
      obtain ⟨middle, before, after⟩ := step.mp behind
      exact ⟨middle, .cons first before, after⟩
    · rintro ⟨middle, _ | ⟨first, behind⟩, after⟩
      exact .cons first (step.mpr ⟨middle, behind, after⟩)

end Pieces

/-! The lexing loop -/

/-- Characters that belong to a lexeme already read are passed over. -/
theorem scan_inside (inside : Nat) (position : Position) (text : List Char) :
    Lexing.scan inside position text = Lexing.scan 0 (position.past (text.take inside)) (text.drop inside) := by
  induction inside generalizing position text with
  | zero => rfl
  | succ inside step =>
    cases text with
    | nil => rfl
    | cons first rest => exact step (position.after first) rest

theorem scan_of_pieces {text : List Char} {pieces : List Piece} (covers : Pieces text pieces []) (position : Position) :
    Lexing.scan 0 position text = ⟨place position pieces, none⟩ := by
  generalize ended : ([] : List Char) = rest at covers
  induction covers generalizing position with
  | nil rest =>
    subst ended
    rfl
  | @cons text kind length others rest first behind step =>
    cases text with
    | nil => cases first
    | cons next text =>
      rw [Lexing.scan, first]
      simp only [scan_inside length]
      exact congrArg (Lexing.cons _) (step (position.past ((next :: text).take (length + 1))) ended)

/-- The lexemes of a text are pieces of it, one behind another, as far as one begins; what is left is nothing, or its first
character is refused where the pieces end. -/
theorem exists_pieces_scan (position : Position) (text : List Char) :
    ∃ pieces rest, Pieces text pieces rest ∧ (∀ kind length, first? rest ≠ some (kind, length + 1)) ∧
      Lexing.scan 0 position text = ⟨place position pieces, rest.head?.map (·, position.past (chars pieces))⟩ := by
  induction measured : text.length using Nat.strongRecOn generalizing text position with
  | _ size again =>
    cases text with
    | nil => exact ⟨[], [], .nil [], nofun, rfl⟩
    | cons next text =>
      rw [Lexing.scan]
      split
      · rename_i kind length first
        have shorter : (text.drop length).length < size := by
          rw [List.length_drop]
          rw [List.length_cons] at measured
          omega
        obtain ⟨others, rest, behind, none, scanned⟩ := again _ shorter (position.past ((next :: text).take (length + 1))) _ rfl
        refine ⟨(kind, (next :: text).take (length + 1)) :: others, rest, .cons first behind, none, ?_⟩
        rw [scan_inside length, chars_cons, past_append]
        exact congrArg (Lexing.cons _) scanned
      · rename_i refused
        exact ⟨[], next :: text, .nil _, fun kind length found => refused kind length found, rfl⟩

theorem exists_pieces {text : List Char} {position : Position}
    (complete : (Lexing.scan 0 position text).failure = none) :
    ∃ pieces, Pieces text pieces [] ∧ (Lexing.scan 0 position text).lexemes = place position pieces := by
  obtain ⟨pieces, rest, covers, -, scanned⟩ := exists_pieces_scan position text
  rw [scanned] at complete ⊢
  have nothing : rest = [] := by simpa using complete
  exact ⟨pieces, nothing ▸ covers, rfl⟩

/-! Stretches that end with a stop -/

theorem ofText?_prefix {input : List Char} {mark : Punctuation} (found : Punctuation.ofText? input = some mark) :
    mark.text.toList <+: input := by
  unfold Punctuation.ofText? at found
  split at found <;> cases found <;> exact ⟨_, rfl⟩

/-- A lexeme of the class of a mark is that mark. -/
theorem first?_mark {input : List Char} {mark : Punctuation} {length : Nat}
    (found : first? input = some (some (.mark mark), length)) :
    Punctuation.ofText? input = some mark ∧ length = mark.text.length := by
  obtain ⟨candidate, member, same⟩ := List.exists_of_findSome?_eq_some found
  simp only [classes, List.mem_cons, List.not_mem_nil, or_false] at member
  rcases member with rfl | rfl | rfl | rfl | rfl | rfl | rfl | rfl | rfl | rfl | rfl
  case inr.inr.inr.inr.inr.inr.inr.inr.inr.inr =>
    obtain ⟨found, isMark, same⟩ := Option.map_eq_some_iff.mp same
    cases same
    exact ⟨isMark, rfl⟩
  all_goals
    obtain ⟨_, -, impossible⟩ := Option.map_eq_some_iff.mp same
    cases impossible

/-- A lexeme that can end an item is a stop, whatever follows it. -/
theorem exists_stop {text : List Char} {terminal : Terminal} {length : Nat} (closes : terminal.closesItem = true)
    (first : first? text = some (some terminal, length + 1)) :
    ∃ stop behind, IsStop stop ∧ text = stop :: behind ∧ length = 0 ∧
      ∀ behind', first? (stop :: behind') = some (some terminal, 1) := by
  unfold Terminal.closesItem at closes
  split at closes
  · obtain ⟨isMark, size⟩ := first?_mark first
    obtain ⟨behind, rfl⟩ := ofText?_prefix isMark
    exact ⟨'\x7d', behind, .inl rfl, rfl, Nat.succ.inj size, fun _ => rfl⟩
  · obtain ⟨isMark, size⟩ := first?_mark first
    obtain ⟨behind, rfl⟩ := ofText?_prefix isMark
    exact ⟨';', behind, .inr rfl, rfl, Nat.succ.inj size, fun _ => rfl⟩
  · cases closes

/-- Pieces that end with a stop are found again when their characters are a text of their own. -/
theorem Pieces.cut {text rest : List Char} {inside : List Piece} {terminal : Terminal} {last : List Char}
    (closes : terminal.closesItem = true) (covers : Pieces text (inside ++ [(some terminal, last)]) rest) :
    ∃ before stop, IsStop stop ∧ chars (inside ++ [(some terminal, last)]) = before ++ [stop] ∧
      Pieces (before ++ [stop]) (inside ++ [(some terminal, last)]) [] := by
  induction inside generalizing text with
  | nil =>
    obtain _ | ⟨first, behind⟩ := covers
    obtain ⟨stop, behind, isStop, rfl, rfl, again⟩ := exists_stop closes first
    exact ⟨[], stop, isStop, rfl, .cons (again []) (.nil [])⟩
  | cons one others step =>
    obtain _ | @⟨_, kind, length, _, _, first, behind⟩ := covers
    obtain ⟨before, stop, isStop, same, again⟩ := step behind
    have rest_eq : text.drop (length + 1) = before ++ stop :: rest := by
      rw [behind.eq_append, List.append_eq, same, List.append_assoc, List.singleton_append]
    have size : (text.take (length + 1)).length = length + 1 := by
      have remaining := congrArg List.length rest_eq
      rw [List.length_drop, List.length_append, List.length_cons] at remaining
      exact List.length_take_of_le (by omega)
    have whole : text = (text.take (length + 1) ++ before) ++ stop :: rest := by
      rw [List.append_assoc, ← rest_eq, List.take_append_drop]
    rw [whole] at first
    have cut := first?_of_stop isStop first (by rw [List.length_append]; omega)
    refine ⟨text.take (length + 1) ++ before, stop, isStop, ?_, ?_⟩
    · rw [List.cons_append, chars_cons, same, List.append_assoc]
    · rw [List.append_assoc] at cut ⊢
      exact .cons_append cut size again

/-! Tokens -/

theorem tokensFrom_cons (position : Position) (kind : LexemeClass) (text : List Char) (others : List Piece) :
    tokensFrom position ((kind, text) :: others) =
      (token? ⟨kind, text, position⟩).toList ++ tokensFrom (position.past text) others := by
  rw [tokensFrom, place, List.filterMap_cons]
  cases token? ⟨kind, text, position⟩ <;> rfl

theorem tokensFrom_append (position : Position) (one two : List Piece) :
    tokensFrom position (one ++ two) = tokensFrom position one ++ tokensFrom (position.past (chars one)) two := by
  rw [tokensFrom, place_append, List.filterMap_append]
  rfl

/-- The tokens of some pieces are the same up to positions wherever the pieces stand. -/
theorem tokensFrom_sameButPlaces (position position' : Position) (pieces : List Piece) :
    SameButPlaces (tokensFrom position pieces) (tokensFrom position' pieces) := by
  induction pieces generalizing position position' with
  | nil => rfl
  | cons first others step =>
    obtain ⟨kind, text⟩ := first
    have behind := step (position.past text) (position'.past text)
    rw [tokensFrom_cons, tokensFrom_cons]
    cases kind with
    | none => exact behind
    | some terminal => exact congrArg (_ :: ·) behind

/-- A token of some pieces is that of one piece. -/
theorem exists_of_tokensFrom {position : Position} {pieces : List Piece} {before after : List Token} {token : Token}
    (tokens : tokensFrom position pieces = before ++ token :: after) :
    ∃ pre kind text post, pieces = pre ++ (kind, text) :: post ∧ tokensFrom position pre = before ∧
      token? ⟨kind, text, position.past (chars pre)⟩ = some token ∧
        tokensFrom (position.past (chars pre ++ text)) post = after := by
  induction pieces generalizing position before with
  | nil => simp [tokensFrom, place] at tokens
  | cons first others step =>
    obtain ⟨kind, text⟩ := first
    rw [tokensFrom_cons] at tokens
    have later (before' : List Token) (split : before = (token? ⟨kind, text, position⟩).toList ++ before')
        (rest : tokensFrom (position.past text) others = before' ++ token :: after) :
        ∃ pre kind' text' post, (kind, text) :: others = pre ++ (kind', text') :: post ∧
          tokensFrom position pre = before ∧ token? ⟨kind', text', position.past (chars pre)⟩ = some token ∧
            tokensFrom (position.past (chars pre ++ text')) post = after := by
      obtain ⟨pre, kind', text', post, rfl, ofPre, ofPiece, ofPost⟩ := step rest
      refine ⟨(kind, text) :: pre, kind', text', post, rfl, ?_, ?_, ?_⟩
      · rw [tokensFrom_cons, ofPre, split]
      · rwa [chars_cons, past_append]
      · rwa [chars_cons, List.append_assoc, past_append]
    cases found : token? ⟨kind, text, position⟩ with
    | none =>
      rw [found] at tokens
      exact later before (by rw [found]; rfl) tokens
    | some one =>
      rw [found] at tokens
      cases before with
      | nil =>
        obtain ⟨rfl, rest⟩ := List.cons.inj tokens
        exact ⟨[], kind, text, others, rfl, rfl, found, rest⟩
      | cons first before =>
        obtain ⟨rfl, rest⟩ := List.cons.inj tokens
        exact later before (by rw [found]; rfl) rest

theorem places_of_token? {lexeme : Lexeme} {token : Token} (found : lexeme.token? = some token) :
    token.start = lexeme.start ∧ token.stop = lexeme.stop := by
  obtain ⟨_, -, rfl⟩ := Option.map_eq_some_iff.mp found
  exact ⟨rfl, rfl⟩

/-- A token that can end an item has the class of its lexeme. -/
theorem kind_of_closesItem {lexeme : Lexeme} {token : Token} (found : lexeme.token? = some token)
    (closes : token.terminal.closesItem = true) : lexeme.kind = some token.terminal := by
  obtain ⟨kind, text, start⟩ := lexeme
  obtain ⟨terminal, rfl, rfl⟩ := Option.map_eq_some_iff.mp found
  cases terminal with
  | ident =>
    simp only at closes
    cases reserved : Keyword.ofText? (String.ofList text) <;> simp [reserved, Terminal.closesItem] at closes
  | _ => rfl

/-- The first of some pieces is a token. -/
def BeginsToken (pieces : List Piece) : Prop := ∃ terminal front others, pieces = (some terminal, front) :: others

/-- A stretch of tokens whose last token can end an item is that of some pieces which begin and end with tokens. -/
theorem exists_of_stretch {pieces : List Piece} {position : Position} {before inside after : List Token} {last : Token}
    (closes : last.terminal.closesItem = true)
    (tokens : tokensFrom position pieces = before ++ (inside ++ [last]) ++ after) :
    ∃ pre core text post, pieces = pre ++ (core ++ [(some last.terminal, text)]) ++ post ∧
      tokensFrom (position.past (chars pre)) (core ++ [(some last.terminal, text)]) = inside ++ [last] ∧
      BeginsToken (core ++ [(some last.terminal, text)]) := by
  have split : tokensFrom position pieces = (before ++ inside) ++ last :: after := by simp [tokens]
  obtain ⟨front, kind, text, post, rfl, ofFront, ofLast, -⟩ := exists_of_tokensFrom split
  obtain rfl : kind = some last.terminal := kind_of_closesItem ofLast closes
  have lastAlone : tokensFrom (position.past (chars front)) [(some last.terminal, text)] = [last] := by
    rw [tokensFrom_cons, ofLast]
    rfl
  cases inside with
  | nil => exact ⟨front, [], text, post, by simp, lastAlone, _, _, _, rfl⟩
  | cons head inner =>
    obtain ⟨pre, kind, text', core, rfl, -, ofHead, ofCore⟩ := exists_of_tokensFrom ofFront
    obtain ⟨terminal, isToken, -⟩ := Option.map_eq_some_iff.mp ofHead
    refine ⟨pre, (kind, text') :: core, text, post, by simp, ?_, terminal, text', _, by rw [← isToken]; rfl⟩
    have sameStart : chars pre ++ chars ((kind, text') :: core) = chars (pre ++ (kind, text') :: core) :=
      List.flatMap_append.symm
    rw [tokensFrom_append, tokensFrom_cons, ofHead, ← past_append, ofCore, ← past_append, sameStart, lastAlone]
    rfl

/-! Order -/

/-- Tokens stand one behind another, from an offset on and before another offset. -/
inductive Between : Nat → List Token → Nat → Prop
  | nil {first last : Nat} (ordered : first ≤ last) : Between first [] last
  | cons {first last : Nat} {token : Token} {others : List Token} (behind : first ≤ token.start.offset)
      (proper : token.start.offset < token.stop.offset) (ordered : Between token.stop.offset others last) :
      Between first (token :: others) last

namespace Between

theorem le {first last : Nat} {tokens : List Token} (between : Between first tokens last) : first ≤ last := by
  induction between with
  | nil ordered => exact ordered
  | cons behind proper _ step => omega

theorem widen {first first' last : Nat} {tokens : List Token} (between : Between first tokens last)
    (wider : first' ≤ first) : Between first' tokens last := by
  cases between with
  | nil ordered => exact .nil (by omega)
  | cons behind proper ordered => exact .cons (by omega) proper ordered

theorem of_append {first last : Nat} {one two : List Token} (between : Between first (one ++ two) last) :
    ∃ middle, Between first one middle ∧ Between middle two last := by
  induction one generalizing first with
  | nil => exact ⟨first, .nil (Nat.le_refl first), between⟩
  | cons token others step =>
    obtain _ | ⟨behind, proper, ordered⟩ := between
    obtain ⟨middle, before, after⟩ := step ordered
    exact ⟨middle, .cons behind proper before, after⟩

end Between

theorem between_of_pieces {text rest : List Char} {pieces : List Piece} (covers : Pieces text pieces rest)
    (position : Position) :
    Between position.offset (tokensFrom position pieces) (position.offset + (chars pieces).length) := by
  induction covers generalizing position with
  | nil rest => exact .nil (Nat.le_refl _)
  | @cons text kind length others rest first behind step =>
    have passed := Position.offset_past position (text.take (length + 1))
    have proper : 0 < (text.take (length + 1)).length := by
      cases text with
      | nil => cases first
      | cons next text => exact Nat.succ_pos _
    have ordered := step (position.past (text.take (length + 1)))
    rw [passed] at ordered
    rw [tokensFrom_cons, chars_cons, List.length_append, ← Nat.add_assoc]
    cases found : token? ⟨kind, text.take (length + 1), position⟩ with
    | none => exact ordered.widen (by omega)
    | some token =>
      have start : token.start = position := (places_of_token? found).1
      have stop : token.stop = position.past (text.take (length + 1)) := (places_of_token? found).2
      refine .cons ?_ ?_ ?_
      · rw [start]
      · rw [start, stop, passed]
        omega
      · rwa [stop, passed]

end Lexeme

end Exposure
