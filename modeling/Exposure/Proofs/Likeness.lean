import Exposure.Proofs.Reading
import Mathlib.Data.List.Forall2

/-!
Like grammars read like values from like tokens: two grammars of one shape whose functions carry like arguments to like
results go on to be alike behind every token.
-/

namespace Exposure

namespace Grammar

variable {token name : Type} {meaning : name → Type} {value other left right element inner : Type}

/-- Two grammars have one shape, and their functions carry like arguments to like results. -/
inductive Alike (likeToken : token → token → Prop) (likeMeaning : (which : name) → meaning which → meaning which → Prop) :
    {value : Type} → (value → value → Prop) → Grammar token meaning value → Grammar token meaning value → Prop
  | void {value : Type} {like : value → value → Prop} : Alike likeToken likeMeaning like void void
  | unit {value : Type} {like : value → value → Prop} {one two : value} (results : like one two) :
      Alike likeToken likeMeaning like (unit one) (unit two)
  | single {value : Type} {like : value → value → Prop} {accepts accepts' : token → Bool} {one two : token → value}
      (sameTokens : ∀ token token', likeToken token token' → accepts token = accepts' token')
      (results : ∀ token token', likeToken token token' → like (one token) (two token')) :
      Alike likeToken likeMeaning like (single accepts one) (single accepts' two)
  | rule {value : Type} {like : value → value → Prop} {which : name} {one two : meaning which → value}
      (results : ∀ x y, likeMeaning which x y → like (one x) (two y)) :
      Alike likeToken likeMeaning like (rule which one) (rule which two)
  | sequence {value left right : Type} {like : value → value → Prop} {likeLeft : left → left → Prop}
      {likeRight : right → right → Prop} {first first' : Grammar token meaning left}
      {second second' : Grammar token meaning right} {one two : left → right → value}
      (firsts : Alike likeToken likeMeaning likeLeft first first')
      (seconds : Alike likeToken likeMeaning likeRight second second')
      (results : ∀ x x' y y', likeLeft x x' → likeRight y y' → like (one x y) (two x' y')) :
      Alike likeToken likeMeaning like (sequence first second one) (sequence first' second' two)
  | choice {value : Type} {like : value → value → Prop} {first first' second second' : Grammar token meaning value}
      (firsts : Alike likeToken likeMeaning like first first')
      (seconds : Alike likeToken likeMeaning like second second') :
      Alike likeToken likeMeaning like (choice first second) (choice first' second')
  | repeated {value element : Type} {like : value → value → Prop} {likeElement : element → element → Prop}
      {body body' : Grammar token meaning element} {one two : List element → value}
      (bodies : Alike likeToken likeMeaning likeElement body body')
      (results : ∀ xs ys, List.Forall₂ likeElement xs ys → like (one xs) (two ys)) :
      Alike likeToken likeMeaning like (repeated body one) (repeated body' two)
  | witnessed {value inner : Type} {like : value → value → Prop} {likeInner : inner → inner → Prop}
      {body body' : Grammar token meaning inner} {one two : List token → inner → value}
      (bodies : Alike likeToken likeMeaning likeInner body body')
      (results : ∀ tokens tokens' x y, (tokens = [] → body.isNullable = true) → List.Forall₂ likeToken tokens tokens' →
        likeInner x y → like (one tokens x) (two tokens' y)) :
      Alike likeToken likeMeaning like (witnessed body one) (witnessed body' two)

namespace Alike

variable {likeToken : token → token → Prop} {likeMeaning : (which : name) → meaning which → meaning which → Prop}
  {like : value → value → Prop} {likeOther : other → other → Prop} {likeLeft : left → left → Prop}
  {likeRight : right → right → Prop}

theorem map {one two : Grammar token meaning value} (alike : Alike likeToken likeMeaning like one two)
    {transform transform' : value → other} (results : ∀ x y, like x y → likeOther (transform x) (transform' y)) :
    Alike likeToken likeMeaning likeOther (one.map transform) (two.map transform') := by
  induction alike with
  | void => exact .void
  | unit same => exact .unit (results _ _ same)
  | single sameTokens same => exact .single sameTokens fun _ _ tokens => results _ _ (same _ _ tokens)
  | rule same => exact .rule fun _ _ meanings => results _ _ (same _ _ meanings)
  | sequence firsts seconds same =>
    exact .sequence firsts seconds fun _ _ _ _ lefts rights => results _ _ (same _ _ _ _ lefts rights)
  | choice _ _ ofFirst ofSecond => exact .choice (ofFirst results) (ofSecond results)
  | repeated bodies same => exact .repeated bodies fun _ _ elements => results _ _ (same _ _ elements)
  | witnessed bodies same =>
    exact .witnessed bodies fun _ _ _ _ nullable tokens inner => results _ _ (same _ _ _ _ nullable tokens inner)

theorem empty? {one two : Grammar token meaning value} (alike : Alike likeToken likeMeaning like one two) :
    Option.Rel like one.empty? two.empty? := by
  induction alike with
  | unit same => exact .some same
  | @sequence _ _ _ _ _ _ first first' second second' _ _ _ _ same ofFirst ofSecond =>
    simp only [Grammar.empty?]
    generalize second.empty? = two, second'.empty? = two' at ofSecond ⊢
    generalize first.empty? = one, first'.empty? = one' at ofFirst ⊢
    cases ofSecond with
    | none => exact .none
    | some rights =>
      cases ofFirst with
      | none => exact .none
      | some lefts => exact .some (same _ _ _ _ lefts rights)
  | @choice _ _ first first' second second' _ _ ofFirst ofSecond =>
    simp only [Grammar.empty?]
    generalize first.empty? = one, first'.empty? = one' at ofFirst ⊢
    cases ofFirst with
    | none => simpa using ofSecond
    | some same => exact .some same
  | repeated _ same => exact .some (same [] [] .nil)
  | @witnessed _ _ _ _ body body' _ _ _ same ofBody =>
    simp only [Grammar.empty?]
    have nullable := Grammar.isNullable_eq body
    generalize body.empty? = one, body'.empty? = one' at ofBody nullable ⊢
    cases ofBody with
    | none => exact .none
    | some inner => exact .some (same [] [] _ _ (fun _ => nullable) .nil inner)
  | _ => exact .none

theorem isNullable_eq {one two : Grammar token meaning value} (alike : Alike likeToken likeMeaning like one two) :
    one.isNullable = two.isNullable := by
  rw [Grammar.isNullable_eq, Grammar.isNullable_eq]
  have empties := alike.empty?
  generalize one.empty? = x, two.empty? = y at empties ⊢
  cases empties <;> rfl

theorem orElse {first first' second second' : Grammar token meaning value}
    (firsts : Alike likeToken likeMeaning like first first')
    (seconds : Alike likeToken likeMeaning like second second') :
    Alike likeToken likeMeaning like (Grammar.orElse first second) (Grammar.orElse first' second') := by
  have both := Alike.choice firsts seconds
  have kept := firsts
  cases firsts with
  | void => exact seconds
  | _ => cases seconds <;> first | exact both | exact kept

theorem andThen {first first' : Grammar token meaning left} {second second' : Grammar token meaning right}
    {one two : left → right → value} (firsts : Alike likeToken likeMeaning likeLeft first first')
    (seconds : Alike likeToken likeMeaning likeRight second second')
    (results : ∀ x x' y y', likeLeft x x' → likeRight y y' → like (one x y) (two x' y')) :
    Alike likeToken likeMeaning like (Grammar.andThen first second one) (Grammar.andThen first' second' two) := by
  have both := Alike.sequence firsts seconds results
  cases firsts with
  | void => exact .void
  | unit same => exact seconds.map fun _ _ rights => results _ _ _ _ same rights
  | _ => cases seconds <;> first | exact both | exact .void
/-- Like grammars are alike behind like tokens. -/
theorem derivative {unfolded unfolded' : (which : name) → Grammar token meaning (meaning which)}
    (rules : ∀ which, Alike likeToken likeMeaning (likeMeaning which) (unfolded which) (unfolded' which))
    {next next' : token} (tokens : likeToken next next') {one two : Grammar token meaning value}
    (alike : Alike likeToken likeMeaning like one two) :
    Alike likeToken likeMeaning like (Grammar.derivative unfolded next one) (Grammar.derivative unfolded' next' two) := by
  induction alike with
  | void => exact .void
  | unit same => exact .void
  | single sameTokens same =>
    simp only [Grammar.derivative, sameTokens _ _ tokens]
    split
    · exact .unit (same _ _ tokens)
    · exact .void
  | rule same => exact (rules _).map same
  | @sequence _ _ _ _ _ _ first first' second second' _ _ firsts seconds same ofFirst ofSecond =>
    have continued := ofFirst.andThen seconds same
    have empties := firsts.empty?
    simp only [Grammar.derivative, firsts.isNullable_eq]
    split
    · generalize first.empty? = start, first'.empty? = start' at empties ⊢
      cases empties with
      | none =>
        generalize Grammar.derivative unfolded next second = rest, Grammar.derivative unfolded' next' second' = rest'
          at ofSecond ⊢
        cases ofSecond <;> exact continued
      | some lefts =>
        have begun := ofSecond.map fun x y rights => same _ _ x y lefts rights
        generalize Grammar.derivative unfolded next second = rest, Grammar.derivative unfolded' next' second' = rest'
          at ofSecond begun ⊢
        cases ofSecond with
        | void => exact continued
        | _ => exact continued.orElse begun
    · exact continued
  | choice _ _ ofFirst ofSecond => exact ofFirst.orElse ofSecond
  | repeated bodies same ofBody =>
    exact ofBody.andThen (.repeated bodies fun _ _ elements => elements) fun _ _ _ _ head tail =>
      same _ _ (.cons head tail)
  | @witnessed _ _ _ _ body body' _ _ bodies same ofBody =>
    simp only [Grammar.derivative]
    generalize Grammar.derivative unfolded next body = rest, Grammar.derivative unfolded' next' body' = rest'
      at ofBody ⊢
    have kept := Alike.witnessed ofBody fun others others' x y _ same' inner =>
      same (next :: others) (next' :: others') x y (absurd · (List.cons_ne_nil next others)) (.cons tokens same') inner
    cases ofBody <;> first | exact .void | exact kept

/-- Like grammars read like values from like tokens. -/
theorem read? {rules : (which : name) → Grammar token meaning (meaning which)}
    (alikeRules : ∀ which, Alike likeToken likeMeaning (likeMeaning which) (rules which) (rules which))
    {one two : Grammar token meaning value} (alike : Alike likeToken likeMeaning like one two)
    {tokens tokens' : List token} (same : List.Forall₂ likeToken tokens tokens') :
    Option.Rel like (one.read? rules tokens) (two.read? rules tokens') := by
  induction same generalizing one two with
  | nil => exact alike.empty?
  | cons next _ again =>
    rw [read?_cons, read?_cons]
    exact again (alike.derivative (fun which => (alikeRules which).derivative (fun _ => .void) next) next)

theorem isVoid_eq {one two : Grammar token meaning value} (alike : Alike likeToken likeMeaning like one two) :
    one.isVoid = two.isVoid := by
  cases alike <;> rfl

/-- Like grammars go on alike behind like tokens, or are stopped by like tokens. -/
theorem run {rules : (which : name) → Grammar token meaning (meaning which)}
    (alikeRules : ∀ which, Alike likeToken likeMeaning (likeMeaning which) (rules which) (rules which))
    {one two : Grammar token meaning value} (alike : Alike likeToken likeMeaning like one two)
    {tokens tokens' : List token} (same : List.Forall₂ likeToken tokens tokens') :
    (∃ rest rest', one.run rules tokens = .ok rest ∧ two.run rules tokens' = .ok rest' ∧
      Alike likeToken likeMeaning like rest rest') ∨
    ∃ stopped stopped', one.run rules tokens = .error stopped ∧ two.run rules tokens' = .error stopped' ∧
      likeToken stopped stopped' := by
  induction same generalizing one two with
  | nil => exact .inl ⟨one, two, rfl, rfl, alike⟩
  | @cons next next' others others' first _ again =>
    have stepped : Alike likeToken likeMeaning like (one.step rules next) (two.step rules next') :=
      alike.derivative (fun which => (alikeRules which).derivative (fun _ => .void) first) first
    rw [Grammar.run, Grammar.run, ← stepped.isVoid_eq]
    split
    · exact .inr ⟨next, next', rfl, rfl, first⟩
    · exact again stepped

/-! Notation -/

theorem functorMap {one two : Grammar token meaning value} (alike : Alike likeToken likeMeaning like one two)
    {transform transform' : value → other} (results : ∀ x y, like x y → likeOther (transform x) (transform' y)) :
    Alike likeToken likeMeaning likeOther (transform <$> one) (transform' <$> two) := alike.map results

/-- Functions are alike when they carry like arguments to like results. -/
theorem seq {transform transform' : Grammar token meaning (value → other)} {argument argument' : Grammar token meaning value}
    (transforms : Alike likeToken likeMeaning (fun f g => ∀ x y, like x y → likeOther (f x) (g y)) transform transform')
    (arguments : Alike likeToken likeMeaning like argument argument') :
    Alike likeToken likeMeaning likeOther (transform <*> argument) (transform' <*> argument') :=
  .sequence transforms arguments fun _ _ _ _ functions values => functions _ _ values

theorem seqLeft {kept kept' : Grammar token meaning value} {dropped dropped' : Grammar token meaning other}
    (values : Alike likeToken likeMeaning like kept kept')
    (others : Alike likeToken likeMeaning likeOther dropped dropped') :
    Alike likeToken likeMeaning like (kept <* dropped) (kept' <* dropped') :=
  .sequence values others fun _ _ _ _ same _ => same

theorem seqRight {kept kept' : Grammar token meaning value} {dropped dropped' : Grammar token meaning other}
    (others : Alike likeToken likeMeaning likeOther dropped dropped')
    (values : Alike likeToken likeMeaning like kept kept') :
    Alike likeToken likeMeaning like (dropped *> kept) (dropped' *> kept') :=
  .sequence others values fun _ _ _ _ _ same => same

end Alike

end Grammar

end Exposure
