import Exposure.Proofs.Succession

/-!
What stands in braces: the items in the braces of a module or of a block of functions are read for themselves, and what
stands in the braces of a function is not looked at.
-/

namespace Exposure

/-! Outside of all brackets -/

/-- The item has ended, or cannot be read any more. -/
def Stage.isPast : Stage → Bool
  | ended => true
  | lost => true
  | _ => false

/-- The item holds items in braces, or has ended, or cannot be read any more. -/
def Stage.isHolding : Stage → Bool
  | shape true _ => true
  | default true _ => true
  | ended => true
  | lost => true
  | _ => false

namespace Course

/-- The stage outside of all brackets. -/
def outermost (course : Course) : Stage := (course.stage :: course.below).getLast (List.cons_ne_nil _ _)

/-- What no token changes of a stage that no bracket surrounds, no token changes of the stage outside of all brackets. -/
theorem outermost_pass {property : Stage → Bool} (lost : property .lost = true)
    (next : ∀ stage token, property stage = true → property (stage.next .ended token) = true)
    (resumed : ∀ stage token, property stage = true → property (stage.resumed .ended token) = true) {course : Course}
    (holds : property course.outermost = true) (token : Terminal) : property (course.pass token).outermost = true := by
  obtain ⟨stage, below⟩ := course
  cases below with
  | nil =>
    have holds : property stage = true := holds
    unfold pass
    split
    · exact next stage token holds
    · split
      · exact resumed stage token holds
      · exact lost
  | cons outer others =>
    have holds : property ((outer :: others).getLast (List.cons_ne_nil _ _)) = true := holds
    unfold pass
    split
    · exact holds
    · split
      · exact holds
      · exact holds

theorem outermost_foldl {property : Stage → Bool} (lost : property .lost = true)
    (next : ∀ stage token, property stage = true → property (stage.next .ended token) = true)
    (resumed : ∀ stage token, property stage = true → property (stage.resumed .ended token) = true) {course : Course}
    (holds : property course.outermost = true) (tokens : List Token) :
    property (tokens.foldl Rule.contract.move course).outermost = true := by
  induction tokens generalizing course with
  | nil => exact holds
  | cons first rest again => exact again (outermost_pass lost next resumed holds first.terminal)

theorem isPast_foldl {course : Course} (past : course.outermost.isPast = true) (tokens : List Token) :
    (tokens.foldl Rule.contract.move course).outermost.isPast = true := by
  have next (stage : Stage) (token : Terminal) (past : stage.isPast = true) :
      (stage.next .ended token).isPast = true := by
    obtain rfl | rfl : stage = .ended ∨ stage = .lost := by cases stage <;> simp_all [Stage.isPast]
    · unfold Stage.next
      split <;> first | rfl | simp_all
    · rfl
  have resumed (stage : Stage) (token : Terminal) (past : stage.isPast = true) :
      (stage.resumed .ended token).isPast = true := by
    obtain rfl | rfl : stage = .ended ∨ stage = .lost := by cases stage <;> simp_all [Stage.isPast]
    · rfl
    · rfl
  exact outermost_foldl rfl next resumed past tokens

theorem isHolding_foldl {course : Course} (holding : course.outermost.isHolding = true) (tokens : List Token) :
    (tokens.foldl Rule.contract.move course).outermost.isHolding = true := by
  have cases_of {stage : Stage} (holding : stage.isHolding = true) :
      (∃ angles, stage = .shape true angles) ∨ (∃ angles, stage = .default true angles) ∨ stage = .ended ∨ stage = .lost := by
    cases stage with
    | shape holdsItems angles => cases holdsItems <;> simp_all [Stage.isHolding]
    | default holdsItems angles => cases holdsItems <;> simp_all [Stage.isHolding]
    | _ => simp_all [Stage.isHolding]
  have next (stage : Stage) (token : Terminal) (holding : stage.isHolding = true) :
      (stage.next .ended token).isHolding = true := by
    obtain ⟨angles, rfl⟩ | ⟨angles, rfl⟩ | rfl | rfl := cases_of holding
    · unfold Stage.next
      split <;> first | rfl | simp_all [Stage.isHolding]
    · unfold Stage.next
      split <;> first | rfl | simp_all [Stage.isHolding]
    · unfold Stage.next
      split <;> first | rfl | simp_all
    · rfl
  have resumed (stage : Stage) (token : Terminal) (holding : stage.isHolding = true) :
      (stage.resumed .ended token).isHolding = true := by
    obtain ⟨angles, rfl⟩ | ⟨angles, rfl⟩ | rfl | rfl := cases_of holding
    · cases angles with
      | zero =>
        by_cases brace : token = .mark .openBrace
        · exact congrArg Stage.isHolding (if_pos brace)
        · exact congrArg Stage.isHolding (if_neg brace)
      | succ angles => rfl
    · rfl
    · rfl
    · rfl
  exact outermost_foldl rfl next resumed holding tokens

end Course

namespace Rule

section Braces

variable {value : Type} {rule : Rule value}

/-- No rule that ends before braces goes on behind the opening one. -/
theorem not_accepts_into_braces {form : Form} (same : language rule = form.language) {here : Course}
    {holdsItems holdsItems' : Bool} {gives : value → Prop} (leads : rule.Leads here ⟨.shape holdsItems 0, []⟩ gives)
    {front : List Token} (reached : front.foldl contract.move here = ⟨.shape holdsItems' 0, []⟩) {opening : Token}
    (opens : opening.terminal = .mark .openBrace) (rest : List Token) : ¬ rule.Accepts (front ++ opening :: rest) := by
  intro accepts
  have inside : (contract.move ⟨.shape holdsItems' 0, []⟩ opening).outermost.isPast = true := by
    simp only [contract, opens]
    cases holdsItems' <;> rfl
  have past := Course.isPast_foldl inside rest
  have ends := leads.foldl same accepts
  rw [List.foldl_append, reached, List.foldl_cons] at ends
  rw [ends] at past
  cases past

theorem read?_into_braces {form : Form} (same : language rule = form.language) {here : Course}
    {holdsItems holdsItems' : Bool} {gives : value → Prop} (leads : rule.Leads here ⟨.shape holdsItems 0, []⟩ gives)
    {front : List Token} (reached : front.foldl contract.move here = ⟨.shape holdsItems' 0, []⟩) {opening : Token}
    (opens : opening.terminal = .mark .openBrace) {added behind : List Token} (proper : added ≠ [])
    (begins : added <+: opening :: behind) : rule.read? (front ++ added) = none := by
  obtain ⟨next, rest, rfl⟩ := List.exists_cons_of_ne_nil proper
  obtain ⟨rfl, -⟩ := List.cons_prefix_cons.mp begins
  exact Option.not_isSome_iff_eq_none.mp (not_accepts_into_braces same leads reached opens rest)

theorem read?_terminal_append {wanted : Terminal} {token : Token} {added : List Token} (proper : added ≠ []) :
    (terminal wanted).read? (token :: added) = none := by
  by_contra found
  obtain ⟨_, found⟩ := Option.ne_none_iff_exists'.mp found
  exact proper (List.cons_eq_cons.mp (eq_of_read?_terminal found).1).2

theorem read?_terminal {wanted : Terminal} {token : Token} (same : token.terminal = wanted) :
    (terminal wanted).read? [token] = some token := by
  rw [Rule.read?, terminal, Grammar.read?_single]
  simp [same]

/-- Between brackets, what a rule reads is what it reads from the tokens in them. -/
theorem read?_within {delimiter : Delimiter} {opening closing : Token}
    (opens : opening.terminal = .mark delimiter.opening) (closes : closing.terminal = .mark delimiter.closing)
    {inside : List Token} {found : value} (read : rule.read? inside = some found) :
    (within delimiter rule).read? (opening :: inside ++ [closing]) = some found := by
  have opened : Rule.read? (mark delimiter.opening *> rule) ([opening] ++ inside) = some found :=
    Grammar.read?_sequence_eq_some (read?_terminal opens) read fun added _ proper _ => .inl (read?_terminal_append proper)
  refine Grammar.read?_sequence_eq_some opened (read?_terminal closes)
    fun added left proper joined => .inr ?_
  -- the closing bracket is the only token that is left
  obtain _ | ⟨_, _⟩ := added
  · exact absurd rfl proper
  · obtain ⟨-, rfl⟩ := List.append_eq_nil_iff.mp (List.cons_eq_cons.mp joined).2.symm
    rfl

end Braces

/-! Which declaration is read -/

section Declarations

variable {tokens : List Token}

theorem mayBegin_of_accepts {value : Type} {rule : Rule value} {next : Token} {rest : List Token}
    (accepts : rule.Accepts (next :: rest)) : rule.mayBegin next = true := by
  by_contra excluded
  rw [Accepts, Grammar.Accepts, Grammar.read?_of_not_mayBegin (Bool.eq_false_iff.mpr excluded)] at accepts
  cases accepts

/-- Where the first side of a choice reads nothing, the second side is read. -/
theorem read?_orElse_of_none {value : Type} {one two : Rule value} (nothing : ¬ one.Accepts tokens) :
    Rule.read? (one <|> two) tokens = two.read? tokens := by
  have nothing : Grammar.read? rules one tokens = none := Option.not_isSome_iff_eq_none.mp nothing
  exact (Grammar.read?_choice one two tokens).trans (by rw [nothing, Option.none_or])

theorem read?_orElse_of_some {value : Type} {one two : Rule value} {found : value} (read : one.read? tokens = some found) :
    Rule.read? (one <|> two) tokens = some found :=
  (Grammar.read?_choice one two tokens).trans (by rw [show Grammar.read? rules one tokens = some found from read]; rfl)

theorem read?_some {rule : Rule Item} {found : Item} (read : rule.read? tokens = some found) :
    Rule.read? (some <$> rule) tokens = some (some found) :=
  (Grammar.read?_map some rule tokens).trans (congrArg (Option.map some) read)

theorem accepts_some {rule : Rule Item} : Accepts (some <$> rule) tokens ↔ rule.Accepts tokens := by
  have read : Grammar.read? rules (some <$> rule) tokens = (Grammar.read? rules rule tokens).map some :=
    Grammar.read?_map some rule tokens
  rw [Accepts, Grammar.Accepts, read, Option.isSome_map]
  exact Iff.rfl

/-- Rules that begin with different tokens do not accept the same tokens. -/
theorem not_accepts_of_apart {rule other : Rule Item} (accepts : rule.Accepts tokens) (proper : other.isNullable = false)
    (apart : ∀ next, rule.mayBegin next = true → other.mayBegin next = false) : ¬ Accepts (some <$> other) tokens := by
  intro longer
  have ofOther := accepts_some.mp longer
  cases tokens with
  | nil =>
    rw [Grammar.isNullable_eq] at proper
    rw [Accepts, Grammar.Accepts, Grammar.read?_nil, proper] at ofOther
    cases ofOther
  | cons next rest =>
    have begins := mayBegin_of_accepts ofOther
    rw [apart next (mayBegin_of_accepts accepts)] at begins
    cases begins

/-- The words that the declarations of interest begin with. -/
theorem module_begins {next : Token} (begins : moduleDeclaration.mayBegin next = true) :
    next.terminal = .word .modWord := by
  obtain ⟨terminal, text, start, stop⟩ := next
  cases terminal with
  | word keyword => cases keyword <;> first | rfl | cases begins
  | mark punctuation => cases punctuation <;> cases begins
  | _ => cases begins

theorem impl_begins {next : Token} (begins : implDeclaration.mayBegin next = true) :
    next.terminal = .word .unsafeWord ∨ next.terminal = .word .implWord := by
  obtain ⟨terminal, text, start, stop⟩ := next
  cases terminal with
  | word keyword => cases keyword <;> first | exact .inl rfl | exact .inr rfl | cases begins
  | mark punctuation => cases punctuation <;> cases begins
  | _ => cases begins

theorem function_begins {next : Token} (begins : functionDeclaration.mayBegin next = true) :
    ∃ keyword ∈ [Keyword.constWord, .asyncWord, .unsafeWord, .externWord, .fnWord], next.terminal = .word keyword := by
  obtain ⟨terminal, text, start, stop⟩ := next
  cases terminal with
  | word keyword => cases keyword <;> first | exact ⟨_, by decide, rfl⟩ | cases begins
  | mark punctuation => cases punctuation <;> cases begins
  | _ => cases begins

theorem read?_declaration_of_module {found : Item} (read : moduleDeclaration.read? tokens = some found) :
    declaration.read? tokens = some (some found) := by
  have accepts : moduleDeclaration.Accepts tokens := Option.isSome_of_eq_some read
  have apart {other : Rule Item} (proper : other.isNullable = false)
      (excludes : ∀ text start stop, other.mayBegin ⟨.word .modWord, text, start, stop⟩ = false) :
      ¬ Accepts (some <$> other) tokens := by
    refine not_accepts_of_apart accepts proper fun next begins => ?_
    obtain ⟨_, text, start, stop⟩ := next
    obtain rfl := module_begins begins
    exact excludes text start stop
  exact (read?_orElse_of_none (apart rfl fun _ _ _ => rfl)).trans
    ((read?_orElse_of_none (apart rfl fun _ _ _ => rfl)).trans
      ((read?_orElse_of_none (apart rfl fun _ _ _ => rfl)).trans
        ((read?_orElse_of_none (apart rfl fun _ _ _ => rfl)).trans (read?_orElse_of_some (read?_some read)))))

theorem read?_declaration_of_impl {found : Item} (read : implDeclaration.read? tokens = some found) :
    declaration.read? tokens = some (some found) := by
  have accepts : implDeclaration.Accepts tokens := Option.isSome_of_eq_some read
  have apart {other : Rule Item} (proper : other.isNullable = false)
      (excludes : ∀ keyword ∈ [Keyword.unsafeWord, .implWord], ∀ text start stop,
        other.mayBegin ⟨.word keyword, text, start, stop⟩ = false) : ¬ Accepts (some <$> other) tokens := by
    refine not_accepts_of_apart accepts proper fun next begins => ?_
    obtain ⟨_, text, start, stop⟩ := next
    obtain rfl | rfl := impl_begins begins
    · exact excludes _ (by decide) text start stop
    · exact excludes _ (by decide) text start stop
  refine (read?_orElse_of_none (apart rfl ?_)).trans
    ((read?_orElse_of_none (apart rfl ?_)).trans (read?_orElse_of_some (read?_some read)))
  all_goals
    intro keyword member text start stop
    cases keyword <;> first | rfl | simp at member

end Declarations

/-! Functions -/

/-- What stands before the result of a function. -/
def functionHead : Rule (Option TypeExpr → Item) :=
  (fun (name : Token) parameters returnType =>
      .functionItem ⟨.bare name.start, name.text, parameters, returnType⟩) <$>
    (Grammar.many functionQualifier *> word .fnWord *> ident <* maybeGenerics) <*>
    within .paren (commaList parameter)

/-- The result of a function and the conditions on its types. -/
def functionResult : Rule (Option TypeExpr) := Grammar.optional (mark .arrow *> typeExpr) <* maybeWhere

/-- What stands behind the head of a function. -/
def functionBody : Rule Unit := skip (within .brace trees) <|> skip (mark .semicolon)

theorem functionDeclaration_eq : functionDeclaration = functionHead <*> (functionResult <* functionBody) := rfl

theorem language_functionHead : language functionHead =
    (.repeated (.phrase .functionQualifier) >> .word .fnWord >> .ident >> .optional (.phrase .generics) >>
      .inParens (.optional (.phrase .parameters)) : Form).language := by
  simp [functionHead, language_functionQualifier, language_parameter, Form.language_phrase .parameters, Form.inParens,
    Delimiter.opening, Delimiter.closing, mul_assoc]

theorem language_functionResult : language functionResult =
    (.optional (.phrase .output) >> .optional (.phrase .whereClause) : Form).language := by
  simp [functionResult, Form.language_phrase .output]

theorem functionHead_passes : functionHead.Passes ⟨.head, []⟩ ⟨.shape false 0, []⟩ := by
  have steady := shape_steady [] false 0
  have inside : Course.Steady (Course.inside ⟨.shape false 0, []⟩) := inside_steady
  have parameters := within_paren_leads steady.takesType ((parameter_leads inside).commaList (inside.pass rfl))
  exact .seq ((functionName_leads []).map fun _ _ _ _ => trivial) parameters

theorem functionResult_passes : functionResult.Passes ⟨.shape false 0, []⟩ ⟨.shape false 0, []⟩ := by
  have steady := shape_steady [] false 0
  have arrow : (mark .arrow).Passes ⟨.shape false 0, []⟩ ⟨.shape false 0, []⟩ := mark_passes steady rfl
  exact .seqLeft (Grammar.Contract.Leads.optional (.seqRight arrow (typeExpr_steady steady))).passes (maybeWhere_passes steady)

/-- The head and the result of a function lead from before it to before its body. -/
theorem exists_of_read?_function {tokens : List Token} {found : Item}
    (read : functionDeclaration.read? tokens = some found) :
    ∃ front body, tokens = front ++ body ∧ front.foldl contract.move ⟨.head, []⟩ = ⟨.shape false 0, []⟩ ∧
      functionBody.Accepts body := by
  rw [functionDeclaration_eq] at read
  obtain ⟨head, _, _, _, rfl, readHead, readRest, -⟩ := Grammar.exists_of_read?_sequence read
  obtain ⟨result, body, _, _, rfl, readResult, readBody, -⟩ := Grammar.exists_of_read?_sequence readRest
  refine ⟨head ++ result, body, (List.append_assoc ..).symm, ?_, Option.isSome_of_eq_some readBody⟩
  rw [List.foldl_append, functionHead_passes.foldl language_functionHead (Option.isSome_of_eq_some readHead)]
  exact functionResult_passes.foldl language_functionResult (Option.isSome_of_eq_some readResult)

/-- The body of a function is trees in braces or a semicolon. -/
theorem accepts_functionBody {tokens : List Token} (accepts : functionBody.Accepts tokens) :
    (∃ opening body closing, tokens = opening :: body ++ [closing] ∧ opening.terminal = .mark .openBrace ∧
      trees.Accepts body ∧ closing.terminal = .mark .closeBrace) ∨
    ∃ semicolon, tokens = [semicolon] ∧ semicolon.terminal = .mark .semicolon := by
  obtain ⟨_, read⟩ := Option.isSome_iff_exists.mp accepts
  rcases Grammar.or_of_read?_choice read with readBlock | readMark
  · obtain ⟨_, readBlock, -⟩ := Grammar.exists_of_read?_map readBlock
    obtain ⟨opening, body, closing, rfl, opens, closes, readBody⟩ := exists_of_read?_within readBlock
    exact .inl ⟨opening, body, closing, rfl, opens, Option.isSome_of_eq_some readBody, closes⟩
  · obtain ⟨semicolon, readMark, -⟩ := Grammar.exists_of_read?_map readMark
    obtain ⟨rfl, same⟩ := eq_of_read?_terminal readMark
    exact .inr ⟨semicolon, rfl, same⟩

section Body

variable {opening closing : Token} (opens : opening.terminal = .mark .openBrace)
  (closes : closing.terminal = .mark .closeBrace) {body body' : List Token} (ofBody : trees.Accepts body)
  (ofBody' : trees.Accepts body')

/-- A function has no body but the last one. -/
theorem not_accepts_functionBody {front : List Token} (proper : front ≠ [])
    (reached : front.foldl contract.move ⟨.shape false 0, []⟩ = ⟨.shape false 0, []⟩) (behind : List Token) :
    ¬ functionBody.Accepts (front ++ opening :: behind) := by
  intro accepts
  obtain ⟨next, others, rfl⟩ := List.exists_cons_of_ne_nil proper
  rcases accepts_functionBody accepts with ⟨first, _, _, same, isBrace, -⟩ | ⟨_, same, -⟩
  · obtain ⟨rfl, -⟩ := List.cons_eq_cons.mp same
    have inside : (contract.move ⟨.shape false 0, []⟩ next).outermost.isPast = true := by
      simp only [contract, isBrace]
      rfl
    have past := Course.isPast_foldl inside others
    rw [List.foldl_cons] at reached
    rw [reached] at past
    cases past
  · have lengths := congrArg List.length same
    simp at lengths

include opens closes ofBody ofBody'

theorem read?_functionBody_congr {front : List Token}
    (reached : front.foldl contract.move ⟨.shape false 0, []⟩ = ⟨.shape false 0, []⟩) :
    functionBody.read? (front ++ (opening :: body ++ [closing])) =
      functionBody.read? (front ++ (opening :: body' ++ [closing])) := by
  by_cases begun : front = []
  · subst begun
    have read {body : List Token} (ofBody : trees.Accepts body) :
        functionBody.read? (opening :: body ++ [closing]) = some () := by
      obtain ⟨found, readBody⟩ := Option.isSome_iff_exists.mp ofBody
      have readBlock : (within .brace trees).read? (opening :: body ++ [closing]) = some found :=
        read?_within opens closes readBody
      exact read?_orElse_of_some ((Grammar.read?_map _ _ _).trans (congrArg (Option.map _) readBlock))
    exact (read ofBody).trans (read ofBody').symm
  · have nothing (behind : List Token) : functionBody.read? (front ++ opening :: behind) = none :=
      Option.not_isSome_iff_eq_none.mp (not_accepts_functionBody begun reached behind)
    exact (nothing _).trans (nothing _).symm

/-- What stands in the braces of a function does not matter. -/
theorem read?_function_congr {front : List Token}
    (reached : front.foldl contract.move ⟨.head, []⟩ = ⟨.shape false 0, []⟩) :
    functionDeclaration.read? (front ++ (opening :: body ++ [closing])) =
      functionDeclaration.read? (front ++ (opening :: body' ++ [closing])) := by
  have behindHead (head rest : List Token) (parts : front = head ++ rest) (ofHead : functionHead.Accepts head) :
      Rule.read? (functionResult <* functionBody) (rest ++ (opening :: body ++ [closing])) =
        Rule.read? (functionResult <* functionBody) (rest ++ (opening :: body' ++ [closing])) := by
    have fromHead : rest.foldl contract.move ⟨.shape false 0, []⟩ = ⟨.shape false 0, []⟩ := by
      rwa [parts, List.foldl_append, functionHead_passes.foldl language_functionHead ofHead] at reached
    refine (Grammar.read?_sequence _ _ _ _).trans (Eq.trans ?_ (Grammar.read?_sequence _ _ _ _).symm)
    refine congrArg _ (Grammar.split?_append_congr ?_ ?_ fun result rest' parts ofResult => ?_)
    · exact fun added proper begins => read?_into_braces language_functionResult functionResult_passes fromHead opens proper begins
    · exact fun added proper begins => read?_into_braces language_functionResult functionResult_passes fromHead opens proper begins
    · refine read?_functionBody_congr opens closes ofBody ofBody' ?_
      rwa [parts, List.foldl_append, functionResult_passes.foldl language_functionResult ofResult] at fromHead
  refine (Grammar.read?_sequence _ _ _ _).trans (Eq.trans ?_ (Grammar.read?_sequence _ _ _ _).symm)
  refine congrArg _ (Grammar.split?_append_congr ?_ ?_ behindHead)
  · exact fun added proper begins => read?_into_braces language_functionHead functionHead_passes reached opens proper begins
  · exact fun added proper begins => read?_into_braces language_functionHead functionHead_passes reached opens proper begins

end Body

/-- A block of functions begins with its word, perhaps behind another. -/
theorem exists_of_accepts_impl {tokens : List Token} (accepts : implDeclaration.Accepts tokens) :
    ∃ hazard keyword rest, tokens = hazard ++ keyword :: rest ∧ keyword.terminal = .word .implWord ∧
      (hazard = [] ∨ ∃ token, hazard = [token] ∧ token.terminal = .word .unsafeWord) := by
  obtain ⟨_, read⟩ := Option.isSome_iff_exists.mp accepts
  obtain ⟨_, _, _, _, rfl, readHead, -, -⟩ := Grammar.exists_of_read?_sequence read
  obtain ⟨_, _, _, _, rfl, readFront, -, -⟩ := Grammar.exists_of_read?_sequence readHead
  obtain ⟨hazard, _, _, _, rfl, readHazard, readWord, -⟩ := Grammar.exists_of_read?_sequence readFront
  obtain ⟨_, _, keyword, _, rfl, readKeyword, -, -⟩ := Grammar.exists_of_read?_sequence readWord
  obtain ⟨rfl, isImpl⟩ := eq_of_read?_terminal readKeyword
  refine ⟨hazard, keyword, _, by simp only [List.append_assoc, List.singleton_append]; rfl, isImpl, ?_⟩
  obtain ⟨_, readHazard, -⟩ := Grammar.exists_of_read?_map readHazard
  rcases Grammar.or_of_read?_choice readHazard with readUnsafe | readNothing
  · obtain ⟨token, readUnsafe, -⟩ := Grammar.exists_of_read?_map readUnsafe
    obtain ⟨rfl, isUnsafe⟩ := eq_of_read?_terminal readUnsafe
    exact .inr ⟨token, rfl, isUnsafe⟩
  · refine .inl ?_
    by_contra proper
    rw [show Grammar.read? rules (pure none : Rule (Option Token)) hazard = _ from Grammar.read?_unit _ _,
      if_neg proper] at readNothing
    cases readNothing

/-- A function is no block of functions. -/
theorem not_accepts_impl_of_function {tokens : List Token} {found : Item}
    (read : functionDeclaration.read? tokens = some found) : ¬ implDeclaration.Accepts tokens := by
  intro accepts
  obtain ⟨front, body, rfl, reached, -⟩ := exists_of_read?_function read
  obtain ⟨hazard, keyword, rest, same, isImpl, isHazard⟩ := exists_of_accepts_impl accepts
  have atHead : hazard.foldl contract.move ⟨.head, []⟩ = ⟨.head, []⟩ := by
    rcases isHazard with rfl | ⟨token, rfl, isUnsafe⟩
    · rfl
    · simp only [List.foldl_cons, List.foldl_nil, contract, isUnsafe]
      rfl
  have atShape : contract.move ⟨.head, []⟩ keyword = ⟨.shape true 0, []⟩ := by
    simp only [contract, isImpl]
    rfl
  rcases List.append_eq_append_iff.mp same with ⟨more, parts, -⟩ | ⟨_ | ⟨_, behind⟩, rfl, behindHazard⟩
  · -- before the word the watcher is still where it was
    have unmoved : front = [] ∨ front = hazard := by
      rcases isHazard with rfl | ⟨token, rfl, -⟩
      · exact .inl (List.append_eq_nil_iff.mp parts.symm).1
      · exact (List.append_eq_singleton_iff.mp parts.symm).imp And.left And.left
    rcases unmoved with rfl | rfl
    · cases reached
    · rw [atHead] at reached
      cases reached
  · rw [List.append_nil, atHead] at reached
    cases reached
  · -- behind the word no head of a function ends
    obtain ⟨rfl, -⟩ := List.cons_eq_cons.mp behindHazard
    rw [List.foldl_append, atHead, List.foldl_cons, atShape] at reached
    have atStart : (⟨.shape true 0, []⟩ : Course).outermost.isHolding = true := rfl
    have holding := Course.isHolding_foldl atStart behind
    rw [reached] at holding
    cases holding

theorem read?_declaration_of_function {tokens : List Token} {found : Item}
    (read : functionDeclaration.read? tokens = some found) : declaration.read? tokens = some (some found) := by
  have accepts : functionDeclaration.Accepts tokens := Option.isSome_of_eq_some read
  have apart {other : Rule Item} (proper : other.isNullable = false)
      (excludes : ∀ keyword ∈ [Keyword.constWord, .asyncWord, .unsafeWord, .externWord, .fnWord], ∀ text start stop,
        other.mayBegin ⟨.word keyword, text, start, stop⟩ = false) : ¬ Accepts (some <$> other) tokens := by
    refine not_accepts_of_apart accepts proper fun next begins => ?_
    obtain ⟨_, text, start, stop⟩ := next
    obtain ⟨keyword, member, rfl⟩ := function_begins begins
    exact excludes keyword member text start stop
  refine (read?_orElse_of_none (apart rfl ?_)).trans ((read?_orElse_of_none (apart rfl ?_)).trans
    ((read?_orElse_of_none (mt accepts_some.mp (not_accepts_impl_of_function read))).trans
      (read?_orElse_of_some (read?_some read))))
  all_goals
    intro keyword member text start stop
    cases keyword <;> first | rfl | simp at member

/-! Items with their beginning -/

/-- What is declared behind attributes and a visibility gets these. -/
theorem read?_item_of_beginning {start rest : List Token} {attributes : List Attribute} {isPublic : Bool}
    {found : Option Item} (readStart : beginning.read? start = some fun item => (attributes, isPublic, item))
    (read : declaration.read? rest = some found) :
    item.read? (start ++ rest) =
      some (found.map fun declared => declared.decorate attributes isPublic (.ofTokens (start ++ rest))) := by
  have parts : Grammar.read? rules (beginning <*> declaration) (start ++ rest) = some (attributes, isPublic, found) := by
    refine Grammar.read?_sequence_eq_some readStart read fun added left proper joined => .inl ?_
    obtain ⟨next, others, rfl⟩ := List.exists_cons_of_ne_nil proper
    subst joined
    exact read?_beginning_append (Option.isSome_of_eq_some readStart)
      (beginsDeclaration_of_accepts (Option.isSome_of_eq_some read)) others
  rw [read?_item, Rule.read?, itemRule, Grammar.read?_witnessed]
  exact congrArg (Option.map _) parts

/-- Attributes and a visibility are put in front of whatever is declared behind them. -/
theorem exists_decoration {start : List Token} (ofStart : beginning.Accepts start) :
    ∃ attributes isPublic, ∀ rest found, declaration.read? rest = some found →
      item.read? (start ++ rest) =
        some (found.map fun declared => declared.decorate attributes isPublic (.ofTokens (start ++ rest))) := by
  obtain ⟨make, readStart⟩ := Option.isSome_iff_exists.mp ofStart
  obtain ⟨_, _, _, isPublic, -, readAttributes, -, rfl⟩ := Grammar.exists_of_read?_sequence readStart
  obtain ⟨attributes, -, rfl⟩ := Grammar.exists_of_read?_map readAttributes
  exact ⟨attributes, isPublic, fun rest found read => read?_item_of_beginning readStart read⟩

/-- An item is what is declared behind attributes and a visibility, with these; so is any other declaration behind them. -/
theorem exists_declared {tokens : List Token} {found : Item} (read : item.read? tokens = some (some found)) :
    ∃ start rest declared attributes isPublic, tokens = start ++ rest ∧ beginning.Accepts start ∧
      declaration.read? rest = some (some declared) ∧ declared.decorate attributes isPublic (.ofTokens tokens) = found ∧
      ∀ other found', declaration.read? other = some found' → item.read? (start ++ other) =
        some (found'.map fun declared => declared.decorate attributes isPublic (.ofTokens (start ++ other))) := by
  obtain ⟨start, rest, rfl, ofStart, ofRest⟩ := exists_of_accepts_item (Option.isSome_of_eq_some read)
  obtain ⟨attributes, isPublic, decorated⟩ := exists_decoration ofStart
  obtain ⟨declared?, readRest⟩ := Option.isSome_iff_exists.mp ofRest
  have whole := decorated rest declared? readRest
  rw [read] at whole
  obtain ⟨declared, rfl, made⟩ := Option.map_eq_some_iff.mp (Option.some.inj whole).symm
  exact ⟨start, rest, declared, attributes, isPublic, rfl, ofStart, readRest, made, decorated⟩

/-- What stands between two tokens does not matter for the stretch from the first token to the last. -/
theorem ofTokens_bracketed (before inside inside' : List Token) (opening closing : Token) :
    Span.ofTokens (before ++ (opening :: inside ++ [closing])) = Span.ofTokens (before ++ (opening :: inside' ++ [closing])) := by
  have last (inside : List Token) : (before ++ (opening :: inside ++ [closing])).getLast? = some closing := by
    rw [← List.append_assoc, List.getLast?_concat]
  rw [Span.ofTokens, Span.ofTokens, last, last]
  cases before <;> rfl

/-- A function stays the same whatever stands in its braces. -/
theorem read?_item_of_function {opening closing : Token} (opens : opening.terminal = .mark .openBrace)
    (closes : closing.terminal = .mark .closeBrace) {body body' : List Token} (ofBody : trees.Accepts body)
    (ofBody' : trees.Accepts body') {head : List Token} {function : FunctionItem}
    (read : item.read? (head ++ (opening :: body ++ [closing])) = some (some (.functionItem function))) :
    item.read? (head ++ (opening :: body' ++ [closing])) = some (some (.functionItem function)) := by
  obtain ⟨start, rest, declared, attributes, isPublic, same, -, readRest, made, decorated⟩ := exists_declared read
  obtain ⟨given, rfl⟩ : ∃ given, declared = .functionItem given := by
    cases declared with
    | functionItem given => exact ⟨given, rfl⟩
    | _ => cases made
  have readFunction : functionDeclaration.read? _ = some (.functionItem given) := read?_declarationOf readRest
  obtain ⟨front, last, rfl, reached, ofLast⟩ := exists_of_read?_function readFunction
  -- the braces are those of the body, since no other brackets at the end hold trees
  obtain ⟨rfl, rfl⟩ : head = start ++ front ∧ last = opening :: body ++ [closing] := by
    rcases accepts_functionBody ofLast with ⟨opening', body', closing', rfl, opens', ofBody', -⟩ | ⟨semicolon, rfl, isMark⟩
    · have parts : (head ++ opening :: body) ++ [closing] = ((start ++ front) ++ opening' :: body') ++ [closing'] := by
        simpa using same
      obtain ⟨parts, lasts⟩ := List.append_inj' parts rfl
      obtain ⟨rfl, rfl, rfl⟩ := eq_of_trees_in_brackets (by rw [opens]; rfl) (by rw [opens']; rfl) ofBody ofBody' parts
      exact ⟨rfl, by rw [lasts]⟩
    · have parts : (head ++ opening :: body) ++ [closing] = (start ++ front) ++ [semicolon] := by simpa using same
      obtain ⟨-, lasts⟩ := List.append_inj' parts rfl
      rw [(List.singleton_inj.mp lasts), isMark] at closes
      cases closes
  rw [read?_function_congr opens closes ofBody ofBody' reached] at readFunction
  rw [List.append_assoc, decorated _ _ (read?_declaration_of_function readFunction), ← List.append_assoc,
    ofTokens_bracketed (start ++ front) body' body, List.append_assoc, ← same]
  exact congrArg (fun item => some (some item)) made

/-! Enclosures of items -/

/-- What holds items in braces. -/
inductive Enclosure where
  | module | block

namespace Enclosure

/-- What stands before the braces, behind the attributes and the visibility. -/
def head : Enclosure → Rule (List Item → Item)
  | module => (fun (name : Token) inside => .moduleItem (.bare name.start) name.text inside) <$> (word .modWord *> ident)
  | block =>
    (fun (hazard : Option Token) (first : Token) (selfType, trait) functions =>
        .implItem (.bare (hazard.getD first).start) selfType trait functions) <$>
      Grammar.optional (word .unsafeWord) <*> (word .implWord <* maybeGenerics) <*> (implHead <* maybeWhere)

/-- What stands in the braces. -/
def content : Enclosure → Rule (List Item)
  | module => moduleItems
  | block => Grammar.many innerAttribute *> items

/-- What may stand in the braces behind other items. -/
def rest : Enclosure → Rule (List Item)
  | module => moduleItems
  | block => items

/-- The tokens before the braces, as a form. -/
def form : Enclosure → Form
  | module => .word .modWord >> .ident
  | block =>
    .optional (.word .unsafeWord) >> .word .implWord >> .optional (.phrase .generics) >> .phrase .implHead >>
      .optional (.phrase .whereClause)

/-- A way to make an item of the items in braces. -/
def Wraps : Enclosure → (List Item → Item) → Prop
  | module, wrap => ∃ header name, wrap = .moduleItem header name
  | block, wrap => ∃ header selfType trait, wrap = .implItem header selfType trait

theorem moduleDeclaration_eq :
    moduleDeclaration = module.head <*> ((fun _ => []) <$> mark .semicolon <|> within .brace module.content) := rfl

theorem implDeclaration_eq : implDeclaration = block.head <*> within .brace block.content := rfl

variable {kind : Enclosure}

theorem language_head (kind : Enclosure) : language kind.head = kind.form.language := by
  cases kind with
  | module => simp [head, form]
  | block => simp [head, form, language_implHead, mul_assoc]

theorem head_passes (kind : Enclosure) : kind.head.Passes ⟨.head, []⟩ ⟨.shape true 0, []⟩ := by
  have steady := shape_steady [] true 0
  cases kind with
  | module =>
    have keyword : (word .modWord).Passes ⟨.head, []⟩ ⟨.shape true 0, []⟩ := terminal_passes rfl
    have name : ident.Passes ⟨.shape true 0, []⟩ ⟨.shape true 0, []⟩ := terminal_passes (steady.pass rfl)
    exact (Grammar.Contract.Leads.seqRight keyword name).map fun _ _ => trivial
  | block =>
    have hazard : Passes (Grammar.optional (word .unsafeWord)) ⟨.head, []⟩ ⟨.head, []⟩ :=
      (Grammar.Contract.Leads.optional (terminal_passes rfl)).passes
    have keyword : (word .implWord).Passes ⟨.head, []⟩ ⟨.shape true 0, []⟩ := terminal_passes rfl
    exact .seq (.seq (hazard.map fun _ _ _ _ _ _ => trivial) (.seqLeft keyword (maybeGenerics_passes steady)))
      (.seqLeft (implHead_leads steady).passes (maybeWhere_passes steady))

theorem wraps_of_read?_head {front : List Token} {make : List Item → Item} (read : kind.head.read? front = some make) :
    kind.Wraps make := by
  cases kind with
  | module =>
    obtain ⟨name, -, rfl⟩ := Grammar.exists_of_read?_map read
    exact ⟨_, _, rfl⟩
  | block =>
    obtain ⟨_, _, _, ⟨selfType, trait⟩, -, readFront, -, rfl⟩ := Grammar.exists_of_read?_sequence read
    obtain ⟨_, _, _, first, -, readHazard, -, rfl⟩ := Grammar.exists_of_read?_sequence readFront
    obtain ⟨hazard, -, rfl⟩ := Grammar.exists_of_read?_map readHazard
    exact ⟨_, _, _, rfl⟩

theorem Wraps.decorate {make : List Item → Item} (wraps : kind.Wraps make) (attributes : List Attribute) (isPublic : Bool)
    (span : Span) : kind.Wraps fun items => (make items).decorate attributes isPublic span := by
  cases kind with
  | module =>
    obtain ⟨header, name, rfl⟩ := wraps
    exact ⟨_, _, rfl⟩
  | block =>
    obtain ⟨header, selfType, trait, rfl⟩ := wraps
    exact ⟨_, _, _, rfl⟩

section Braces

variable {opening closing : Token} (opens : opening.terminal = .mark .openBrace)
  (closes : closing.terminal = .mark .closeBrace)

include opens closes

/-- The items of a declaration are those that are read in its braces. -/
theorem read?_declaration {front inside : List Token} {make : List Item → Item} {found : List Item}
    (readHead : kind.head.read? front = some make) (readInside : kind.content.read? inside = some found) :
    declaration.read? (front ++ (opening :: inside ++ [closing])) = some (some (make found)) := by
  have reached := (head_passes kind).foldl (language_head kind) (Option.isSome_of_eq_some readHead)
  have braces : (within .brace kind.content).read? (opening :: inside ++ [closing]) = some found :=
    read?_within opens closes readInside
  have longest (added left : List Token) (proper : added ≠ []) (joined : opening :: inside ++ [closing] = added ++ left) :
      kind.head.read? (front ++ added) = none :=
    read?_into_braces (language_head kind) (head_passes kind) reached opens proper ⟨left, joined.symm⟩
  cases kind with
  | module =>
    have body : Rule.read? ((fun _ => []) <$> mark .semicolon <|> within .brace module.content)
        (opening :: inside ++ [closing]) = some found := by
      refine (read?_orElse_of_none fun accepts => ?_).trans braces
      obtain ⟨_, read⟩ := Option.isSome_iff_exists.mp accepts
      obtain ⟨_, readMark, -⟩ := Grammar.exists_of_read?_map read
      have lengths := congrArg List.length (eq_of_read?_terminal readMark).1
      simp at lengths
    refine read?_declaration_of_module ?_
    rw [moduleDeclaration_eq]
    exact Grammar.read?_sequence_eq_some readHead body fun added left proper joined => .inl (longest added left proper joined)
  | block =>
    refine read?_declaration_of_impl ?_
    rw [implDeclaration_eq]
    exact Grammar.read?_sequence_eq_some readHead braces fun added left proper joined => .inl (longest added left proper joined)

/-- An item that holds items is made of those that are read in its braces, and of nothing else in them. -/
theorem exists_wrap {start front : List Token} (ofStart : beginning.Accepts start) (ofFront : kind.head.Accepts front) :
    ∃ wrap, kind.Wraps wrap ∧ ∀ inside found, kind.content.read? inside = some found →
      item.read? (start ++ (front ++ (opening :: inside ++ [closing]))) = some (some (wrap found)) := by
  obtain ⟨make, readHead⟩ := Option.isSome_iff_exists.mp ofFront
  obtain ⟨attributes, isPublic, decorated⟩ := exists_decoration ofStart
  refine ⟨_, (wraps_of_read?_head readHead).decorate attributes isPublic
    (.ofTokens ((start ++ front) ++ (opening :: [] ++ [closing]))), fun inside found read => ?_⟩
  rw [decorated _ _ (read?_declaration opens closes readHead read), ← List.append_assoc,
    ofTokens_bracketed (start ++ front) inside []]
  rfl

end Braces

/-! Items in braces -/

theorem read?_rest_append {one two : List Token} {found found' : List Item} (ofOne : kind.rest.read? one = some found)
    (ofTwo : kind.rest.read? two = some found') : kind.rest.read? (one ++ two) = some (found ++ found') := by
  cases kind with
  | module => exact read?_moduleItems_append ofOne ofTwo
  | block => exact read?_items_append ofOne ofTwo

theorem read?_moduleItems_of_content {tokens : List Token} {found : List Item}
    (read : kind.content.read? tokens = some found) : moduleItems.read? tokens = some found := by
  cases kind with
  | module => exact read
  | block =>
    obtain ⟨_, _, _, _, rfl, readAttributes, readItems, rfl⟩ := Grammar.exists_of_read?_sequence read
    exact read?_moduleItems_append (read?_moduleItems_of_innerAttributes (Option.isSome_of_eq_some readAttributes))
      (read?_moduleItems_of_items readItems)

theorem read?_moduleItems_of_rest {tokens : List Token} {found : List Item} (read : kind.rest.read? tokens = some found) :
    moduleItems.read? tokens = some found := by
  cases kind with
  | module => exact read
  | block => exact read?_moduleItems_of_items read

theorem read?_rest_of_item {tokens : List Token} {found : Option Item} (read : item.read? tokens = some found) :
    kind.rest.read? tokens = some found.toList := by
  have ofItems := read?_items_of_item read
  cases kind with
  | module => exact read?_moduleItems_of_items ofItems
  | block => exact ofItems

/-- The items behind others in braces are read behind them. -/
theorem read?_content_append {one two : List Token} {found found' : List Item} (ofOne : kind.content.read? one = some found)
    (ofTwo : kind.rest.read? two = some found') : kind.content.read? (one ++ two) = some (found ++ found') := by
  have both := read?_moduleItems_append (read?_moduleItems_of_content ofOne) (read?_moduleItems_of_rest ofTwo)
  cases kind with
  | module => exact both
  | block =>
    -- the braces accept both, and then hold the items that a module would hold there
    obtain ⟨attributes, _, _, _, rfl, readAttributes, readItems, -⟩ := Grammar.exists_of_read?_sequence ofOne
    have accepts : block.content.Accepts (attributes ++ (_ ++ two)) :=
      Grammar.Accepts.sequence (Option.isSome_of_eq_some readAttributes)
        (Option.isSome_iff_exists.mpr ⟨_, read?_items_append readItems ofTwo⟩) _
    obtain ⟨value, read⟩ := Option.isSome_iff_exists.mp accepts
    have again := read?_moduleItems_of_content read
    rw [← List.append_assoc] at again
    rw [List.append_assoc]
    exact read.trans (again.symm.trans both)

end Enclosure

end Rule

end Exposure
