import Exposure.Proofs.Reading
import Mathlib.Computability.Language

/-!
Which token lists a grammar describes, as a language in the sense of formal language theory: reading accepts exactly the
lists of the language, and stops at the first token with which none of its lists goes on.
-/

namespace Exposure.Grammar

open Computability

variable {token name : Type} {meaning : name → Type} {value other left right element : Type}

/-- The lists of one token that has a property. -/
def letters (property : token → Prop) : Language token := {tokens | ∃ only, tokens = [only] ∧ property only}

/-- The token lists that a grammar describes, given those that each rule stands for. -/
def language (named : name → Language token) : {value : Type} → Grammar token meaning value → Language token
  | _, void => 0
  | _, unit _ => 1
  | _, single accepts _ => letters fun token => accepts token = true
  | _, rule which _ => named which
  | _, sequence first second _ => language named first * language named second
  | _, choice first second => language named first + language named second
  | _, repeated body _ => (language named body)∗
  | _, witnessed body _ => language named body

/-- The rules stand for what they describe, and none of them begins with a rule or is empty. -/
structure Interprets (named : name → Language token) (rules : (which : name) → Grammar token meaning (meaning which)) :
    Prop where
  solves : ∀ which, (rules which).language named = named which
  guarded : ∀ which, (rules which).isGuarded = true
  proper : ∀ which, (rules which).isNullable = false

section Language

variable {named : name → Language token} {rules : (which : name) → Grammar token meaning (meaning which)}

@[simp] theorem language_map (transform : value → other) (grammar : Grammar token meaning value) :
    (grammar.map transform).language named = grammar.language named := by
  induction grammar with
  | choice first second ofFirst ofSecond => simp only [map, language, ofFirst, ofSecond]
  | _ => rfl

@[simp] theorem language_orElse (first second : Grammar token meaning value) :
    (orElse first second).language named = first.language named + second.language named := by
  cases first with
  | void => exact (zero_add _).symm
  | _ => cases second <;> first | rfl | exact (add_zero _).symm

@[simp] theorem language_andThen (first : Grammar token meaning left) (second : Grammar token meaning right)
    (result : left → right → value) :
    (andThen first second result).language named = first.language named * second.language named := by
  cases first with
  | void => exact (zero_mul _).symm
  | unit one => rw [andThen, language_map, language, one_mul]
  | _ => cases second <;> first | rfl | exact (mul_zero _).symm

theorem nil_mem_mul {first second : Language token} : [] ∈ first * second ↔ [] ∈ first ∧ [] ∈ second := by
  rw [Language.mem_mul]
  constructor
  · rintro ⟨beginning, ofFirst, rest, ofSecond, joined⟩
    obtain ⟨rfl, rfl⟩ := List.append_eq_nil_iff.mp joined
    exact ⟨ofFirst, ofSecond⟩
  · rintro ⟨ofFirst, ofSecond⟩
    exact ⟨[], ofFirst, [], ofSecond, rfl⟩

theorem nil_notMem_letters {property : token → Prop} : [] ∉ letters property := by
  rintro ⟨only, same, -⟩
  cases same

/-- A list of a product begins in the first factor, unless that is empty. -/
theorem cons_mem_mul {first second : Language token} {next : token} {rest : List token} :
    next :: rest ∈ first * second ↔
      (∃ beginning behind, rest = beginning ++ behind ∧ next :: beginning ∈ first ∧ behind ∈ second) ∨
        ([] ∈ first ∧ next :: rest ∈ second) := by
  rw [Language.mem_mul]
  constructor
  · rintro ⟨beginning, ofFirst, behind, ofSecond, joined⟩
    cases beginning with
    | nil => exact .inr ⟨ofFirst, joined ▸ ofSecond⟩
    | cons head beginning =>
      obtain ⟨rfl, rfl⟩ := List.cons_eq_cons.mp joined
      exact .inl ⟨beginning, behind, rfl, ofFirst, ofSecond⟩
  · rintro (⟨beginning, behind, rfl, ofFirst, ofSecond⟩ | ⟨empty, ofSecond⟩)
    · exact ⟨next :: beginning, ofFirst, behind, ofSecond, rfl⟩
    · exact ⟨[], empty, next :: rest, ofSecond, rfl⟩

/-- A list of a repetition begins with a nonempty member. -/
theorem cons_mem_kstar {body : Language token} {next : token} {rest : List token} :
    next :: rest ∈ body∗ ↔ ∃ beginning behind, rest = beginning ++ behind ∧ next :: beginning ∈ body ∧ behind ∈ body∗ := by
  constructor
  · intro member
    rw [Language.kstar_def_nonempty] at member
    obtain ⟨parts, joined, each⟩ := member
    cases parts with
    | nil => cases joined
    | cons part parts =>
      obtain ⟨⟨ofPart, proper⟩, ofParts⟩ := List.forall_mem_cons.mp each
      cases part with
      | nil => exact absurd rfl proper
      | cons head beginning =>
        obtain ⟨rfl, rfl⟩ := List.cons_eq_cons.mp joined
        exact ⟨beginning, parts.flatten, rfl, ofPart, Language.join_mem_kstar fun part inside => (ofParts part inside).1⟩
  · rintro ⟨beginning, behind, rfl, ofBody, others⟩
    rw [← Language.one_add_self_mul_kstar_eq_kstar]
    exact .inr (Language.append_mem_mul ofBody others)

/-- A guarded grammar is empty exactly when it accepts the empty token list. -/
theorem nil_mem_language_of_isGuarded {grammar : Grammar token meaning value} (guarded : grammar.isGuarded = true) :
    [] ∈ grammar.language named ↔ grammar.isNullable = true := by
  induction grammar with
  | void => simp [language, isNullable]
  | unit result => simp [language, isNullable]
  | single accepts result => simp [language, isNullable, nil_notMem_letters]
  | rule which result => simp [isGuarded] at guarded
  | sequence first second result ofFirst ofSecond =>
    simp only [isGuarded, Bool.and_eq_true, Bool.or_eq_true, Bool.not_eq_true'] at guarded
    obtain ⟨guardedFirst, guardedSecond⟩ := guarded
    rw [language, nil_mem_mul, ofFirst guardedFirst, isNullable, Bool.and_eq_true, and_comm]
    rcases guardedSecond with proper | guardedSecond
    · simp [proper]
    · rw [ofSecond guardedSecond]
  | choice first second ofFirst ofSecond =>
    simp only [isGuarded, Bool.and_eq_true] at guarded
    rw [language, Language.mem_add, ofFirst guarded.1, ofSecond guarded.2, isNullable, Bool.or_eq_true]
  | repeated body result => simp [language, isNullable, Language.nil_mem_kstar]
  | witnessed body result ofBody => exact ofBody guarded

theorem Interprets.nil_notMem (interprets : Interprets named rules) (which : name) : [] ∉ named which := by
  rw [← interprets.solves which, nil_mem_language_of_isGuarded (interprets.guarded which), interprets.proper which]
  exact Bool.false_ne_true

theorem nil_mem_language (interprets : Interprets named rules) (grammar : Grammar token meaning value) :
    [] ∈ grammar.language named ↔ grammar.isNullable = true := by
  induction grammar with
  | void => simp [language, isNullable]
  | unit result => simp [language, isNullable]
  | single accepts result => simp [language, isNullable, nil_notMem_letters]
  | rule which result => simp [language, isNullable, interprets.nil_notMem which]
  | sequence first second result ofFirst ofSecond =>
    rw [language, nil_mem_mul, ofFirst, ofSecond, isNullable, Bool.and_eq_true, and_comm]
  | choice first second ofFirst ofSecond =>
    rw [language, Language.mem_add, ofFirst, ofSecond, isNullable, Bool.or_eq_true]
  | repeated body result => simp [language, isNullable, Language.nil_mem_kstar]
  | witnessed body result ofBody => exact ofBody

/-- What remains of a grammar describes what follows a token, where its rules do or where it does not begin with one. -/
theorem mem_language_derivative (interprets : Interprets named rules)
    {unfolded : (which : name) → Grammar token meaning (meaning which)} {next : token}
    {grammar : Grammar token meaning value}
    (unfolds : grammar.isGuarded = true ∨
      ∀ which rest, rest ∈ (unfolded which).language named ↔ next :: rest ∈ named which)
    (rest : List token) :
    rest ∈ (derivative unfolded next grammar).language named ↔ next :: rest ∈ grammar.language named := by
  induction grammar generalizing rest with
  | void => exact Iff.rfl
  | unit result => simp [derivative, language]
  | single accepts result =>
    simp only [derivative, language, letters]
    split
    · rename_i accepted
      rw [language, Language.mem_one]
      constructor
      · rintro rfl
        exact ⟨next, rfl, accepted⟩
      · rintro ⟨only, same, -⟩
        exact (List.cons_eq_cons.mp same).2
    · rename_i refused
      refine iff_of_false (Language.notMem_zero rest) ?_
      rintro ⟨only, same, accepted⟩
      cases same
      exact refused accepted
  | rule which result =>
    rw [derivative, language_map, language]
    rcases unfolds with guarded | unfolds
    · simp [isGuarded] at guarded
    · exact unfolds which rest
  | sequence first second result ofFirst ofSecond =>
    have beginsFirst : first.isGuarded = true ∨
        ∀ which rest, rest ∈ (unfolded which).language named ↔ next :: rest ∈ named which := by
      refine unfolds.imp_left fun guarded => ?_
      simp only [isGuarded, Bool.and_eq_true] at guarded
      exact guarded.1
    have continued : ∀ rest, rest ∈ (andThen (derivative unfolded next first) second result).language named ↔
        ∃ beginning behind, rest = beginning ++ behind ∧ next :: beginning ∈ first.language named ∧
          behind ∈ second.language named := by
      intro rest
      rw [language_andThen, Language.mem_mul]
      constructor
      · rintro ⟨beginning, begun, behind, member, rfl⟩
        exact ⟨beginning, behind, rfl, (ofFirst beginsFirst beginning).mp begun, member⟩
      · rintro ⟨beginning, behind, rfl, begun, member⟩
        exact ⟨beginning, (ofFirst beginsFirst beginning).mpr begun, behind, member, rfl⟩
    rw [language, cons_mem_mul, nil_mem_language interprets, ← continued, derivative]
    cases nullable : first.isNullable with
    | false => simp
    | true =>
      have beginsSecond : second.isGuarded = true ∨
          ∀ which rest, rest ∈ (unfolded which).language named ↔ next :: rest ∈ named which := by
        refine unfolds.imp_left fun guarded => ?_
        simp only [isGuarded, nullable, Bool.not_true, Bool.false_or, Bool.and_eq_true] at guarded
        exact guarded.2
      rw [← ofSecond beginsSecond]
      obtain ⟨one, empty⟩ := Option.isSome_iff_exists.mp (isNullable_eq first ▸ nullable)
      cases remaining : derivative unfolded next second with
      | void => simp [language]
      | _ => simp only [↓reduceIte, empty, language_orElse, language_map, Language.mem_add, true_and]
  | choice first second ofFirst ofSecond =>
    have both := unfolds.imp_left fun guarded => by
      simpa only [isGuarded, Bool.and_eq_true] using guarded
    rw [derivative, language_orElse, language, Language.mem_add, Language.mem_add,
      ofFirst (both.imp_left And.left), ofSecond (both.imp_left And.right)]
  | repeated body result ofBody =>
    rw [derivative, language_andThen, language, language, cons_mem_kstar, Language.mem_mul]
    constructor
    · rintro ⟨beginning, begun, behind, member, rfl⟩
      exact ⟨beginning, behind, rfl, (ofBody unfolds beginning).mp begun, member⟩
    · rintro ⟨beginning, behind, rfl, begun, member⟩
      exact ⟨beginning, (ofBody unfolds beginning).mpr begun, behind, member, rfl⟩
  | witnessed body result ofBody =>
    rw [language, ← ofBody unfolds, derivative]
    cases derivative unfolded next body <;> rfl

/-- A step describes what follows a token. -/
theorem mem_language_step (interprets : Interprets named rules) (grammar : Grammar token meaning value) (next : token)
    (rest : List token) : rest ∈ (step rules next grammar).language named ↔ next :: rest ∈ grammar.language named := by
  refine mem_language_derivative interprets (.inr fun which rest => ?_) rest
  rw [mem_language_derivative interprets (.inl (interprets.guarded which)), interprets.solves]

/-- A grammar reads exactly the token lists that it describes. -/
theorem read?_isSome_iff (interprets : Interprets named rules) (grammar : Grammar token meaning value)
    (tokens : List token) : (grammar.read? rules tokens).isSome = true ↔ tokens ∈ grammar.language named := by
  induction tokens generalizing grammar with
  | nil => rw [read?_nil, ← isNullable_eq, nil_mem_language interprets]
  | cons next rest again => rw [read?_cons, again, mem_language_step interprets]

end Language

/-! Stopping -/

/-- No part of a grammar is impossible, and every token class in it has one of some sample tokens. -/
def isProductive (samples : List token) : {value : Type} → Grammar token meaning value → Bool
  | _, void => false
  | _, unit _ => true
  | _, single accepts _ => samples.any accepts
  | _, rule _ _ => true
  | _, sequence first second _ => isProductive samples first && isProductive samples second
  | _, choice first second => isProductive samples first && isProductive samples second
  | _, repeated body _ => isProductive samples body
  | _, witnessed body _ => isProductive samples body

/-- A grammar is impossible as a whole, or no part of it is. -/
def isTrim (samples : List token) (grammar : Grammar token meaning value) : Bool :=
  grammar.isVoid || grammar.isProductive samples

section Stopping

variable {named : name → Language token} {rules : (which : name) → Grammar token meaning (meaning which)}
  {samples : List token}

/-- A productive grammar describes some token list when every rule does. -/
theorem exists_mem_language (inhabited : ∀ which, ∃ tokens, tokens ∈ named which) {grammar : Grammar token meaning value}
    (productive : grammar.isProductive samples = true) : ∃ tokens, tokens ∈ grammar.language named := by
  induction grammar with
  | void => cases productive
  | unit result => exact ⟨[], rfl⟩
  | single accepts result =>
    obtain ⟨only, -, accepted⟩ := List.any_eq_true.mp productive
    exact ⟨[only], only, rfl, accepted⟩
  | rule which result => exact inhabited which
  | sequence first second result ofFirst ofSecond =>
    obtain ⟨inFirst, inSecond⟩ := Bool.and_eq_true_iff.mp productive
    obtain ⟨beginning, ofBeginning⟩ := ofFirst inFirst
    obtain ⟨rest, ofRest⟩ := ofSecond inSecond
    exact ⟨beginning ++ rest, Language.append_mem_mul ofBeginning ofRest⟩
  | choice first second ofFirst _ =>
    obtain ⟨inFirst, -⟩ := Bool.and_eq_true_iff.mp productive
    exact (ofFirst inFirst).imp fun _ => .inl
  | repeated body result => exact ⟨[], Language.nil_mem_kstar _⟩
  | witnessed body result ofBody => exact ofBody productive

theorem isProductive_map (transform : value → other) (grammar : Grammar token meaning value) :
    (grammar.map transform).isProductive samples = grammar.isProductive samples := by
  induction grammar with
  | choice first second ofFirst ofSecond => simp only [map, isProductive, ofFirst, ofSecond]
  | _ => rfl

theorem isTrim_map (transform : value → other) {grammar : Grammar token meaning value}
    (trim : grammar.isTrim samples = true) : (grammar.map transform).isTrim samples = true := by
  cases grammar <;> first | rfl | exact trim | skip
  simpa only [isTrim, map, isVoid, isProductive, isProductive_map] using trim

theorem isTrim_orElse {first second : Grammar token meaning value} (ofFirst : first.isTrim samples = true)
    (ofSecond : second.isTrim samples = true) : (orElse first second).isTrim samples = true := by
  have both (one : first.isProductive samples = true) (two : second.isProductive samples = true) :
      (choice first second).isTrim samples = true := Bool.and_eq_true_iff.mpr ⟨one, two⟩
  cases first with
  | void => exact ofSecond
  | _ => cases second <;> first | exact ofFirst | exact both ofFirst ofSecond

theorem isTrim_andThen {first : Grammar token meaning left} {second : Grammar token meaning right}
    {result : left → right → value} (ofFirst : first.isTrim samples = true)
    (ofSecond : second.isProductive samples = true) : (andThen first second result).isTrim samples = true := by
  have both (one : first.isProductive samples = true) : (sequence first second result).isTrim samples = true :=
    Bool.and_eq_true_iff.mpr ⟨one, ofSecond⟩
  cases first with
  | void => rfl
  | unit one => exact isTrim_map _ (Bool.or_eq_true_iff.mpr (.inr ofSecond))
  | _ => cases second <;> first | exact both ofFirst | exact absurd ofSecond Bool.false_ne_true

/-- What remains of a grammar behind a token is impossible as a whole, or no part of it is. -/
theorem isTrim_derivative {unfolded : (which : name) → Grammar token meaning (meaning which)}
    (unfolds : ∀ which, (unfolded which).isTrim samples = true) (next : token) {grammar : Grammar token meaning value}
    (productive : grammar.isProductive samples = true) : (derivative unfolded next grammar).isTrim samples = true := by
  induction grammar with
  | void => rfl
  | unit result => rfl
  | single accepts result =>
    rw [derivative]
    split <;> rfl
  | rule which result => exact isTrim_map _ (unfolds which)
  | sequence first second result ofFirst ofSecond =>
    obtain ⟨inFirst, inSecond⟩ := Bool.and_eq_true_iff.mp productive
    have continued : (andThen (derivative unfolded next first) second result).isTrim samples = true :=
      isTrim_andThen (ofFirst inFirst) inSecond
    rw [derivative]
    split
    · cases empty : first.empty? with
      | none => cases derivative unfolded next second <;> exact continued
      | some one =>
        have begun := ofSecond inSecond
        cases remaining : derivative unfolded next second with
        | void => exact continued
        | _ => exact isTrim_orElse continued (isTrim_map (result one) (remaining ▸ begun))
    · exact continued
  | choice first second ofFirst ofSecond =>
    obtain ⟨inFirst, inSecond⟩ := Bool.and_eq_true_iff.mp productive
    exact isTrim_orElse (ofFirst inFirst) (ofSecond inSecond)
  | repeated body result ofBody => exact isTrim_andThen (ofBody productive) productive
  | witnessed body result ofBody =>
    have remains := ofBody productive
    simp only [derivative]
    cases remaining : derivative unfolded next body with
    | void => rfl
    | _ =>
      rw [remaining] at remains
      exact remains

/-- Reading a token list ends at what remains of the grammar, or at the first token with which no list that the grammar
describes goes on. -/
theorem run_cases (interprets : Interprets named rules) (inhabited : ∀ which, ∃ tokens, tokens ∈ named which)
    (trim : ∀ which, (rules which).isProductive samples = true) {grammar : Grammar token meaning value}
    (productive : grammar.isProductive samples = true) (tokens : List token) :
    (∃ remaining, run rules grammar tokens = .ok remaining ∧ ∃ rest, tokens ++ rest ∈ grammar.language named) ∨
      ∃ before next after, run rules grammar tokens = .error next ∧ tokens = before ++ next :: after ∧
        (∃ rest, before ++ rest ∈ grammar.language named) ∧
        ∀ rest, before ++ next :: rest ∉ grammar.language named := by
  induction tokens generalizing grammar with
  | nil => exact .inl ⟨grammar, rfl, exists_mem_language inhabited productive⟩
  | cons next rest again =>
    have follows := mem_language_step interprets grammar next
    have trimmed : (step rules next grammar).isTrim samples = true :=
      isTrim_derivative (fun which => isTrim_derivative (fun _ => rfl) next (trim which)) next productive
    cases stuck : (step rules next grammar).isVoid with
    | true =>
      have void : step rules next grammar = .void := by
        cases remaining : step rules next grammar <;> first | rfl | simp [remaining, isVoid] at stuck
      refine .inr ⟨[], next, rest, by simp [run, stuck], rfl, exists_mem_language inhabited productive, ?_⟩
      intro others member
      rw [List.nil_append, ← follows, void] at member
      exact Language.notMem_zero others member
    | false =>
      have remains : (step rules next grammar).isProductive samples = true := by
        rwa [isTrim, stuck, Bool.false_or] at trimmed
      have stepped : run rules grammar (next :: rest) = run rules (step rules next grammar) rest := by
        simp [run, stuck]
      rw [stepped]
      rcases again remains with ⟨remaining, done, others, member⟩ | ⟨before, last, after, done, rfl, begun, refused⟩
      · exact .inl ⟨remaining, done, others, (follows _).mp member⟩
      · obtain ⟨others, member⟩ := begun
        exact .inr ⟨next :: before, last, after, done, rfl, ⟨others, (follows _).mp member⟩,
          fun others member => refused others ((follows _).mpr member)⟩

end Stopping

end Exposure.Grammar
