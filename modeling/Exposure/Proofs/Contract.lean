import Exposure.Proofs.Reading

/-!
A program logic for grammars: which states of a watcher lead, through every token list that a grammar reads, to a state
and a value with a given property.
-/

namespace Exposure.Grammar

/-- What is watched while tokens are read, and what each rule is relied on for: begun in an allowed state, it ends in a
state with a value as promised. -/
structure Contract (token state : Type) {name : Type} (meaning : name → Type) where
  admits : token → Prop
  move : state → token → state
  begins : name → state → Prop
  promises : (which : name) → state → state → meaning which → Prop

namespace Contract

variable {token state name : Type} {meaning : name → Type} {value other left right element inner : Type}

/-- From a state, everything that a grammar reads from admitted tokens leads to a state and a value with a property. -/
def Ensures (contract : Contract token state meaning) :
    {value : Type} → Grammar token meaning value → (state → value → Prop) → state → Prop
  | _, void, _, _ => True
  | _, unit result, after, here => after here result
  | _, single accepts result, after, here =>
    ∀ next, contract.admits next → accepts next = true → after (contract.move here next) (result next)
  | _, rule which result, after, here =>
    contract.begins which here ∧ ∀ last given, contract.promises which here last given → after last (result given)
  | _, sequence first second result, after, here =>
    Ensures contract first
      (fun middle one => Ensures contract second (fun last two => after last (result one two)) middle) here
  | _, choice first second, after, here => Ensures contract first after here ∧ Ensures contract second after here
  | _, @repeated _ _ _ _ element body result, after, here =>
    ∃ invariant : List element → state → Prop, invariant [] here ∧
      (∀ read before, invariant read before →
        Ensures contract body (fun last found => invariant (read ++ [found]) last) before) ∧
      ∀ read last, invariant read last → after last (result read)
  | _, witnessed body result, after, here =>
    Ensures contract body (fun last found => ∀ tokens, after last (result tokens found)) here

variable {contract : Contract token state meaning}

theorem Ensures.mono {grammar : Grammar token meaning value} {after after' : state → value → Prop}
    (weaker : ∀ last found, after last found → after' last found) {here : state}
    (ensured : contract.Ensures grammar after here) : contract.Ensures grammar after' here := by
  induction grammar generalizing here with
  | void => trivial
  | unit result => exact weaker _ _ ensured
  | single accepts result => exact fun next admitted accepted => weaker _ _ (ensured next admitted accepted)
  | rule which result => exact ⟨ensured.1, fun last given promised => weaker _ _ (ensured.2 last given promised)⟩
  | sequence first second result ofFirst ofSecond =>
    exact ofFirst (fun _ _ rest => ofSecond (fun _ _ => weaker _ _) rest) ensured
  | choice first second ofFirst ofSecond => exact ⟨ofFirst weaker ensured.1, ofSecond weaker ensured.2⟩
  | repeated body result _ =>
    obtain ⟨invariant, start, kept, last⟩ := ensured
    exact ⟨invariant, start, kept, fun read state holds => weaker _ _ (last read state holds)⟩
  | witnessed body result ofBody => exact ofBody (fun _ _ holds tokens => weaker _ _ (holds tokens)) ensured

theorem ensures_map {transform : value → other} {grammar : Grammar token meaning value} {after : state → other → Prop}
    {here : state} :
    contract.Ensures (grammar.map transform) after here ↔
      contract.Ensures grammar (fun last found => after last (transform found)) here := by
  induction grammar generalizing here with
  | choice first second ofFirst ofSecond => exact and_congr ofFirst ofSecond
  | _ => exact Iff.rfl

/-- Where a grammar accepts the empty token list, the property holds at once. -/
theorem Ensures.of_empty? {grammar : Grammar token meaning value} {after : state → value → Prop} {here : state}
    (ensured : contract.Ensures grammar after here) {found : value} (empty : grammar.empty? = some found) :
    after here found := by
  induction grammar with
  | unit result =>
    cases empty
    exact ensured
  | sequence first second result ofFirst ofSecond =>
    rw [empty?] at empty
    split at empty
    · cases empty
    · rename_i two ofTwo
      obtain ⟨one, ofOne, rfl⟩ := Option.map_eq_some_iff.mp empty
      exact ofSecond (ofFirst ensured ofOne) ofTwo
  | choice first second ofFirst ofSecond =>
    rcases Option.or_eq_some_iff.mp empty with ofOne | ⟨-, ofTwo⟩
    · exact ofFirst ensured.1 ofOne
    · exact ofSecond ensured.2 ofTwo
  | repeated body result _ =>
    cases empty
    obtain ⟨invariant, start, -, last⟩ := ensured
    exact last [] here start
  | witnessed body result ofBody =>
    obtain ⟨one, ofOne, rfl⟩ := Option.map_eq_some_iff.mp empty
    exact ofBody ensured ofOne []
  | _ => cases empty

theorem Ensures.orElse {first second : Grammar token meaning value} {after : state → value → Prop} {here : state}
    (ofFirst : contract.Ensures first after here) (ofSecond : contract.Ensures second after here) :
    contract.Ensures (Grammar.orElse first second) after here := by
  have both : contract.Ensures (choice first second) after here := ⟨ofFirst, ofSecond⟩
  cases first with
  | void => exact ofSecond
  | _ => cases second <;> first | exact both | exact ofFirst

theorem Ensures.andThen {first : Grammar token meaning left} {second : Grammar token meaning right}
    {result : left → right → value} {after : state → value → Prop} {here : state}
    (ensured : contract.Ensures (sequence first second result) after here) :
    contract.Ensures (Grammar.andThen first second result) after here := by
  cases first with
  | void => trivial
  | unit one => exact ensures_map.mpr ensured
  | _ => cases second <;> first | exact ensured | trivial

/-- Behind a token, what remains of a grammar ensures the same. -/
theorem Ensures.derivative {unfolded : (which : name) → Grammar token meaning (meaning which)} {next : token}
    (admitted : contract.admits next)
    (rules : ∀ which here, contract.begins which here →
      contract.Ensures (unfolded which) (contract.promises which here) (contract.move here next))
    {grammar : Grammar token meaning value} {after : state → value → Prop} {here : state}
    (ensured : contract.Ensures grammar after here) :
    contract.Ensures (Grammar.derivative unfolded next grammar) after (contract.move here next) := by
  induction grammar generalizing here with
  | void => trivial
  | unit result => trivial
  | single accepts result =>
    simp only [Grammar.derivative]
    split
    · rename_i accepted
      exact ensured next admitted accepted
    · trivial
  | rule which result =>
    exact ensures_map.mpr ((rules which here ensured.1).mono ensured.2)
  | sequence first second result ofFirst ofSecond =>
    have front : contract.Ensures first (fun middle one =>
        contract.Ensures second (fun last two => after last (result one two)) middle) here := ensured
    have continued : contract.Ensures (Grammar.andThen (Grammar.derivative unfolded next first) second result) after
        (contract.move here next) :=
      Ensures.andThen (ofFirst front)
    simp only [Grammar.derivative]
    split
    · cases empty : first.empty? with
      | none => cases Grammar.derivative unfolded next second <;> exact continued
      | some one =>
        have begun := ensures_map.mpr (ofSecond (front.of_empty? empty))
        cases remaining : Grammar.derivative unfolded next second with
        | void => exact continued
        | _ =>
          rw [remaining] at begun
          exact continued.orElse begun
    · exact continued
  | choice first second ofFirst ofSecond => exact (ofFirst ensured.1).orElse (ofSecond ensured.2)
  | repeated body result ofBody =>
    obtain ⟨invariant, start, kept, last⟩ := ensured
    refine Ensures.andThen ((ofBody (kept [] here start)).mono fun middle head holds => ?_)
    exact ⟨fun read => invariant (head :: read), holds, fun read => kept (head :: read), fun read => last (head :: read)⟩
  | witnessed body result ofBody =>
    have remains := ofBody ensured
    simp only [Grammar.derivative]
    cases remaining : Grammar.derivative unfolded next body with
    | void => trivial
    | _ =>
      rw [remaining] at remains
      exact remains.mono fun _ _ holds tokens => holds (next :: tokens)

/-- A contract is kept by rules that do what they are relied on for. -/
def KeptBy (contract : Contract token state meaning) (rules : (which : name) → Grammar token meaning (meaning which)) :
    Prop :=
  ∀ which here, contract.begins which here → contract.Ensures (rules which) (contract.promises which here) here

/-- What is ensured of a grammar holds of everything that it reads. -/
theorem Ensures.sound {rules : (which : name) → Grammar token meaning (meaning which)} (kept : contract.KeptBy rules)
    {grammar : Grammar token meaning value} {after : state → value → Prop} {here : state}
    (ensured : contract.Ensures grammar after here) {tokens : List token}
    (admitted : ∀ token ∈ tokens, contract.admits token) {found : value}
    (read : grammar.read? rules tokens = some found) : after (tokens.foldl contract.move here) found := by
  induction tokens generalizing grammar here with
  | nil => exact ensured.of_empty? read
  | cons next rest again =>
    rw [read?_cons] at read
    obtain ⟨ofNext, ofRest⟩ := List.forall_mem_cons.mp admitted
    refine again (ensured.derivative ofNext fun which here begun => ?_) ofRest read
    have unfolds : ∀ which here, contract.begins which here →
        contract.Ensures (void : Grammar token meaning (meaning which)) (contract.promises which here)
          (contract.move here next) :=
      fun _ _ _ => trivial
    exact (kept which here begun).derivative ofNext unfolds

/-- Where every rule may begin, a property of all states and values is ensured. -/
theorem Ensures.ofForall (begins : ∀ which here, contract.begins which here) {grammar : Grammar token meaning value}
    {after : state → value → Prop} (always : ∀ last found, after last found) (here : state) :
    contract.Ensures grammar after here := by
  induction grammar generalizing here with
  | void => trivial
  | unit result => exact always _ _
  | single accepts result => exact fun _ _ _ => always _ _
  | rule which result => exact ⟨begins which here, fun _ _ _ => always _ _⟩
  | sequence first second result ofFirst ofSecond => exact ofFirst (fun middle _ => ofSecond (fun _ _ => always _ _) middle) here
  | choice first second ofFirst ofSecond => exact ⟨ofFirst always here, ofSecond always here⟩
  | repeated body result ofBody =>
    exact ⟨fun _ _ => True, trivial, fun _ before _ => ofBody (fun _ _ => trivial) before, fun _ _ _ => always _ _⟩
  | witnessed body result ofBody => exact ofBody (fun _ _ _ => always _ _) here

/-- A repetition keeps an invariant of the state, and a property of what each of its members gives. -/
theorem Ensures.many {grammar : Grammar token meaning value} {invariant : state → Prop} {vouched : value → Prop}
    {here : state} (start : invariant here)
    (kept : ∀ before, invariant before → contract.Ensures grammar (fun last found => invariant last ∧ vouched found) before) :
    contract.Ensures (Grammar.many grammar) (fun last found => invariant last ∧ ∀ each ∈ found, vouched each) here := by
  refine ⟨fun read state => invariant state ∧ ∀ each ∈ read, vouched each, ⟨start, List.forall_mem_nil _⟩, ?_,
    fun _ _ holds => holds⟩
  rintro read before ⟨holds, each⟩
  refine (kept before holds).mono ?_
  rintro last found ⟨holds, ofFound⟩
  exact ⟨holds, List.forall_mem_append.mpr ⟨each, List.forall_mem_singleton.mpr ofFound⟩⟩

/-! Rules of the logic for grammars that are put together, where the state that they lead to is known -/

/-- A grammar leads from one state to another and gives values with a property. -/
abbrev Leads (contract : Contract token state meaning) (grammar : Grammar token meaning value) (here there : state)
    (gives : value → Prop) : Prop :=
  contract.Ensures grammar (fun last found => last = there ∧ gives found) here

/-- A grammar leads from one state to another. -/
abbrev Passes (contract : Contract token state meaning) (grammar : Grammar token meaning value) (here there : state) :
    Prop :=
  contract.Leads grammar here there fun _ => True

namespace Leads

variable {grammar one : Grammar token meaning value} {two : Grammar token meaning other} {here middle there : state}
  {gives : value → Prop} {gives' : other → Prop} {gives'' : right → Prop}

theorem weaken (leads : contract.Leads grammar here there gives) {weaker : value → Prop}
    (implied : ∀ found, gives found → weaker found) : contract.Leads grammar here there weaker := by
  refine Ensures.mono ?_ leads
  rintro last found ⟨ends, given⟩
  exact ⟨ends, implied found given⟩

theorem passes (leads : contract.Leads grammar here there gives) : contract.Passes grammar here there :=
  leads.weaken fun _ _ => trivial

theorem map (leads : contract.Leads grammar here there gives) {transform : value → other}
    (carried : ∀ found, gives found → gives' (transform found)) :
    contract.Leads (transform <$> grammar) here there gives' := by
  refine ensures_map.mpr (Ensures.mono ?_ leads)
  rintro last found ⟨ends, given⟩
  exact ⟨ends, carried found given⟩

theorem skip (leads : contract.Leads grammar here there gives) :
    contract.Passes ((fun _ => ()) <$> grammar) here there :=
  leads.map fun _ _ => trivial

theorem sequence (ofOne : contract.Leads one here middle gives) (ofTwo : contract.Leads two middle there gives')
    {result : value → other → right} (carried : ∀ x y, gives x → gives' y → gives'' (result x y)) :
    contract.Leads (.sequence one two result) here there gives'' := by
  have behind : contract.Ensures one (fun middle x =>
      contract.Ensures two (fun last y => last = there ∧ gives'' (result x y)) middle) here := by
    refine Ensures.mono ?_ ofOne
    rintro _ x ⟨rfl, givenOne⟩
    refine Ensures.mono ?_ ofTwo
    rintro last y ⟨ends, givenTwo⟩
    exact ⟨ends, carried x y givenOne givenTwo⟩
  exact behind

theorem seq {transforms : Grammar token meaning (value → other)}
    (ofTransforms : contract.Leads transforms here middle fun transform => ∀ found, gives found → gives' (transform found))
    (leads : contract.Leads grammar middle there gives) : contract.Leads (transforms <*> grammar) here there gives' :=
  .sequence ofTransforms leads fun _ found carried given => carried found given

theorem seqLeft (ofOne : contract.Leads one here middle gives) (ofTwo : contract.Passes two middle there) :
    contract.Leads (one <* two) here there gives :=
  .sequence ofOne ofTwo fun _ _ given _ => given

theorem seqRight (ofOne : contract.Passes one here middle) (ofTwo : contract.Leads two middle there gives') :
    contract.Leads (one *> two) here there gives' :=
  .sequence ofOne ofTwo fun _ _ _ given => given

theorem orElse {one two : Grammar token meaning value} (ofOne : contract.Leads one here there gives)
    (ofTwo : contract.Leads two here there gives) : contract.Leads (one <|> two) here there gives := ⟨ofOne, ofTwo⟩

theorem witnessed (leads : contract.Leads grammar here there gives) {result : List token → value → other}
    (carried : ∀ tokens found, gives found → gives' (result tokens found)) :
    contract.Leads (.witnessed grammar result) here there gives' := by
  have behind : contract.Ensures grammar (fun last found => ∀ tokens, last = there ∧ gives' (result tokens found)) here := by
    refine Ensures.mono ?_ leads
    rintro last found ⟨ends, given⟩ tokens
    exact ⟨ends, carried tokens found given⟩
  exact behind

theorem many (leads : contract.Leads grammar here here gives) :
    contract.Leads (Grammar.many grammar) here here fun found => ∀ each ∈ found, gives each := by
  refine Ensures.many rfl ?_
  rintro _ rfl
  exact leads

theorem optional (leads : contract.Leads grammar here here gives) :
    contract.Leads (Grammar.optional grammar) here here fun found => ∀ each, found = some each → gives each :=
  .orElse (leads.map fun _ given _ same => Option.some.inj same ▸ given) ⟨rfl, nofun⟩

theorem several (first : contract.Leads grammar here there gives) (others : contract.Leads grammar there there gives) :
    contract.Leads (Grammar.several grammar) here there fun found => ∀ each ∈ found, gives each :=
  .seq (first.map fun _ given _ rest => List.forall_mem_cons.mpr ⟨given, rest⟩) others.many

theorem joined (first : contract.Leads grammar here there gives) (separator : contract.Passes two there there)
    (others : contract.Leads grammar there there gives) :
    contract.Leads (Grammar.joined two grammar) here there fun found => gives found.1 ∧ ∀ each ∈ found.2, gives each :=
  .seq (first.map fun _ given _ rest => ⟨given, rest⟩) (many (.seqRight separator others))

theorem separated (leads : contract.Leads grammar here here gives) (separator : contract.Passes two here here) :
    contract.Leads (Grammar.separated two grammar) here here fun found => ∀ each ∈ found, gives each := by
  have first : contract.Leads (List.cons <$> grammar) here here fun transform =>
      ∀ others, (∀ each ∈ others, gives each) → ∀ each ∈ transform others, gives each :=
    leads.map fun _ given _ rest => List.forall_mem_cons.mpr ⟨given, rest⟩
  exact .orElse (.seqLeft (.seq first (many (.seqRight separator leads))) separator.optional.passes) ⟨rfl, nofun⟩

end Leads

end Contract

end Exposure.Grammar
