import Exposure.Grammar
import Mathlib.Data.Option.NAry
import Mathlib.Tactic.ByContra

/-!
What a grammar reads, compositionally: a sequence reads the longest beginning that leaves the rest readable, a choice
prefers its first side, and a repetition takes one long part after another.
-/

namespace Exposure

namespace Grammar

variable {token name : Type} {meaning : name → Type} {value other left right element inner : Type}

/-- What a grammar reads from a whole token list, if it accepts it. -/
def read? (rules : (which : name) → Grammar token meaning (meaning which)) (grammar : Grammar token meaning value)
    (tokens : List token) : Option value :=
  match run rules grammar tokens with
  | .ok remaining => remaining.empty?
  | .error _ => none

/-- Read the longest beginning that the first reader takes when the second reader takes what is left. -/
def split? (first : List token → Option left) (second : List token → Option right) :
    List token → Option (left × right)
  | [] => Option.map₂ Prod.mk (first []) (second [])
  | next :: rest =>
    (split? (fun beginning => first (next :: beginning)) second rest).or
      (Option.map₂ Prod.mk (first []) (second (next :: rest)))

/-- No rule stands where the first token is read. -/
def isGuarded : {value : Type} → Grammar token meaning value → Bool
  | _, void => true
  | _, unit _ => true
  | _, single _ _ => true
  | _, rule _ _ => false
  | _, sequence first second _ => isGuarded first && (!isNullable first || isGuarded second)
  | _, choice first second => isGuarded first && isGuarded second
  | _, repeated body _ => isGuarded body
  | _, witnessed body _ => isGuarded body

/-- A member of a grammar may begin with a token, as far as its token classes show. -/
def mayBegin (next : token) : {value : Type} → Grammar token meaning value → Bool
  | _, void => false
  | _, unit _ => false
  | _, single accepts _ => accepts next
  | _, rule _ _ => true
  | _, sequence first second _ => mayBegin next first || (isNullable first && mayBegin next second)
  | _, choice first second => mayBegin next first || mayBegin next second
  | _, repeated body _ => mayBegin next body
  | _, witnessed body _ => mayBegin next body

/-! Splitting -/

/-- A split is a beginning with its value and the rest with its own. -/
theorem exists_of_split? {first : List token → Option left} {second : List token → Option right}
    {tokens : List token} {one : left} {two : right} (found : split? first second tokens = some (one, two)) :
    ∃ beginning rest, tokens = beginning ++ rest ∧ first beginning = some one ∧ second rest = some two := by
  induction tokens generalizing first with
  | nil =>
    obtain ⟨_, _, readFirst, readSecond, same⟩ := Option.mem_map₂_iff.mp found
    cases same
    exact ⟨[], [], rfl, readFirst, readSecond⟩
  | cons next rest step =>
    rcases Option.or_eq_some_iff.mp found with longer | ⟨-, here⟩
    · obtain ⟨beginning, left, rfl, readFirst, readSecond⟩ := step longer
      exact ⟨next :: beginning, left, rfl, readFirst, readSecond⟩
    · obtain ⟨_, _, readFirst, readSecond, same⟩ := Option.mem_map₂_iff.mp here
      cases same
      exact ⟨[], next :: rest, rfl, readFirst, readSecond⟩

/-- A split exists where the list falls into two parts that the readers take. -/
theorem split?_isSome {first : List token → Option left} {second : List token → Option right}
    {beginning rest : List token} (readFirst : (first beginning).isSome) (readSecond : (second rest).isSome) :
    (split? first second (beginning ++ rest)).isSome := by
  induction beginning generalizing first with
  | nil =>
    obtain ⟨one, readFirst⟩ := Option.isSome_iff_exists.mp readFirst
    obtain ⟨two, readSecond⟩ := Option.isSome_iff_exists.mp readSecond
    cases rest <;> simp [split?, readFirst, readSecond]
  | cons next beginning step =>
    have longer : (split? (fun beginning => first (next :: beginning)) second (beginning ++ rest)).isSome :=
      step readFirst
    simp [split?, longer]

/-- The longest beginning is taken: no longer one is left to the readers. -/
theorem split?_eq_some {first : List token → Option left} {second : List token → Option right}
    {beginning rest : List token} {one : left} {two : right} (readFirst : first beginning = some one)
    (readSecond : second rest = some two)
    (longest : ∀ added left, added ≠ [] → rest = added ++ left → first (beginning ++ added) = none ∨ second left = none) :
    split? first second (beginning ++ rest) = some (one, two) := by
  induction beginning generalizing first with
  | nil =>
    cases rest with
    | nil => simp [split?, readFirst, readSecond]
    | cons next rest =>
      have none_longer : split? (fun beginning => first (next :: beginning)) second rest = none := by
        by_contra found
        obtain ⟨⟨_, _⟩, found⟩ := Option.ne_none_iff_exists'.mp found
        obtain ⟨added, left, rfl, taken, remains⟩ := exists_of_split? found
        rcases longest (next :: added) left (by simp) rfl with missing | missing
        · simp [taken] at missing
        · simp [remains] at missing
      simp [split?, none_longer, readFirst, readSecond]
  | cons next beginning step =>
    have longer : split? (fun beginning => first (next :: beginning)) second (beginning ++ rest) = some (one, two) :=
      step readFirst longest
    simp [split?, longer]

/-- Where the first reader takes no beginning but perhaps the empty one, the second reader takes the whole list. -/
theorem split?_of_stuck {first : List token → Option left} {second : List token → Option right} {tokens : List token}
    (stuck : ∀ added, added ≠ [] → added <+: tokens → first added = none) :
    split? first second tokens = Option.map₂ Prod.mk (first []) (second tokens) := by
  cases tokens with
  | nil => rfl
  | cons next rest =>
    have none_longer : split? (fun beginning => first (next :: beginning)) second rest = none := by
      by_contra found
      obtain ⟨⟨_, _⟩, found⟩ := Option.ne_none_iff_exists'.mp found
      obtain ⟨added, left, rfl, taken, -⟩ := exists_of_split? found
      rw [stuck (next :: added) (List.cons_ne_nil _ _) (List.prefix_append (next :: added) left)] at taken
      cases taken
    rw [split?, none_longer, Option.none_or]

/-- What the first reader does not reach can be exchanged where the second reader does not see the difference. -/
theorem split?_append_congr {first : List token → Option left} {second : List token → Option right}
    {tokens one two : List token} (stuck : ∀ added, added ≠ [] → added <+: one → first (tokens ++ added) = none)
    (stuck' : ∀ added, added ≠ [] → added <+: two → first (tokens ++ added) = none)
    (same : ∀ front rest, tokens = front ++ rest → (first front).isSome → second (rest ++ one) = second (rest ++ two)) :
    split? first second (tokens ++ one) = split? first second (tokens ++ two) := by
  have begun (first : List token → Option left) {tokens : List token}
      (same : ∀ front rest, tokens = front ++ rest → (first front).isSome → second (rest ++ one) = second (rest ++ two)) :
      Option.map₂ Prod.mk (first []) (second (tokens ++ one)) =
        Option.map₂ Prod.mk (first []) (second (tokens ++ two)) := by
    cases found : first [] with
    | none => rfl
    | some value => rw [same [] tokens rfl (by rw [found]; rfl)]
  induction tokens generalizing first with
  | nil => exact (split?_of_stuck stuck).trans ((begun first same).trans (split?_of_stuck stuck').symm)
  | cons next rest again =>
    have longer : split? (fun beginning => first (next :: beginning)) second (rest ++ one) =
        split? (fun beginning => first (next :: beginning)) second (rest ++ two) :=
      again stuck stuck' fun front behind parts => same (next :: front) behind (congrArg (next :: ·) parts)
    rw [List.cons_append, List.cons_append, split?, split?, longer]
    exact congrArg _ (begun first same)

/-! Reading -/

theorem isNullable_eq (grammar : Grammar token meaning value) : grammar.isNullable = grammar.empty?.isSome := by
  induction grammar with
  | void => rfl
  | unit result => rfl
  | single accepts result => rfl
  | rule which result => rfl
  | sequence first second result ofFirst ofSecond =>
    rw [isNullable, empty?, ofFirst, ofSecond]
    cases second.empty? <;> simp
  | choice first second ofFirst ofSecond => rw [isNullable, empty?, ofFirst, ofSecond, Option.isSome_or]
  | repeated body result => rfl
  | witnessed body result ofBody => rw [isNullable, empty?, ofBody, Option.isSome_map]

@[simp] theorem empty?_map (transform : value → other) (grammar : Grammar token meaning value) :
    (grammar.map transform).empty? = grammar.empty?.map transform := by
  induction grammar with
  | sequence first second result =>
    simp only [map, empty?]
    cases second.empty? <;> simp [Function.comp_def]
  | choice first second ofFirst ofSecond => simp [map, empty?, ofFirst, ofSecond, Option.map_or]
  | _ => simp [map, empty?, Function.comp_def]

@[simp] theorem empty?_orElse (first second : Grammar token meaning value) :
    (orElse first second).empty? = first.empty?.or second.empty? := by
  cases first <;> cases second <;> simp [orElse, empty?]

@[simp] theorem empty?_andThen (first : Grammar token meaning left) (second : Grammar token meaning right)
    (result : left → right → value) :
    (andThen first second result).empty? = Option.map₂ result first.empty? second.empty? := by
  have ofSequence : (sequence first second result).empty? = Option.map₂ result first.empty? second.empty? := by
    rw [empty?]
    cases second.empty? <;> cases first.empty? <;> rfl
  rw [← ofSequence]
  cases first with
  | void => cases h : second.empty? <;> simp [andThen, empty?, h]
  | unit one => cases h : second.empty? <;> simp [andThen, empty?, h]
  | _ => cases second <;> simp [andThen, empty?]

theorem map_map {final : Type} (first : value → other) (second : other → final)
    (grammar : Grammar token meaning value) : (grammar.map first).map second = grammar.map (second ∘ first) := by
  induction grammar with
  | choice one two ofOne ofTwo => simp only [map, ofOne, ofTwo]
  | _ => rfl

@[simp] theorem orElse_void (grammar : Grammar token meaning value) : orElse grammar void = grammar := by
  cases grammar <;> rfl

@[simp] theorem andThen_void (first : Grammar token meaning left) (result : left → right → value) :
    andThen first void result = void := by
  cases first <;> rfl

theorem map_orElse (transform : value → other) (first second : Grammar token meaning value) :
    (orElse first second).map transform = orElse (first.map transform) (second.map transform) := by
  cases first <;> cases second <;> rfl

theorem map_andThen (transform : value → other) (first : Grammar token meaning left)
    (second : Grammar token meaning right) (result : left → right → value) :
    (andThen first second result).map transform = andThen first second fun one two => transform (result one two) := by
  cases first with
  | unit one => exact map_map _ _ _
  | _ => cases second <;> rfl

/-- Applying a function to the values commutes with reading a token. -/
theorem derivative_map (unfolded : (which : name) → Grammar token meaning (meaning which)) (next : token)
    (transform : value → other) (grammar : Grammar token meaning value) :
    derivative unfolded next (grammar.map transform) = (derivative unfolded next grammar).map transform := by
  induction grammar with
  | void => rfl
  | unit result => rfl
  | single accepts result =>
    simp only [map, derivative]
    split <;> rfl
  | rule which result => exact (map_map _ _ _).symm
  | sequence first second result =>
    simp only [map, derivative]
    cases first.isNullable
    · exact (map_andThen _ _ _ _).symm
    · simp only [↓reduceIte]
      cases derivative unfolded next second <;> cases first.empty? <;> simp [map_andThen, map_orElse, map_map]
      all_goals rfl
  | choice first second ofFirst ofSecond => simp only [map, derivative, ofFirst, ofSecond, map_orElse]
  | repeated body result => simp only [map, derivative, map_andThen, Function.comp_def]
  | witnessed body result =>
    simp only [map, derivative]
    cases derivative unfolded next body <;> rfl

section Reading

variable {rules : (which : name) → Grammar token meaning (meaning which)}

@[simp] theorem read?_nil (grammar : Grammar token meaning value) : grammar.read? rules [] = grammar.empty? := rfl

@[simp] theorem read?_void (tokens : List token) : (void : Grammar token meaning value).read? rules tokens = none := by
  cases tokens <;> rfl

/-- Reading goes on with what remains of the grammar. -/
theorem read?_cons (grammar : Grammar token meaning value) (next : token) (rest : List token) :
    grammar.read? rules (next :: rest) = (step rules next grammar).read? rules rest := by
  rw [read?, run]
  cases remaining : step rules next grammar <;> first | rfl | exact (read?_void rest).symm

@[simp] theorem read?_map (transform : value → other) (grammar : Grammar token meaning value) (tokens : List token) :
    (grammar.map transform).read? rules tokens = (grammar.read? rules tokens).map transform := by
  induction tokens generalizing grammar with
  | nil => exact empty?_map transform grammar
  | cons next rest again => rw [read?_cons, read?_cons, step, derivative_map, ← step, again]

@[simp] theorem read?_unit (result : value) (tokens : List token) :
    (unit result : Grammar token meaning value).read? rules tokens = if tokens = [] then some result else none := by
  cases tokens with
  | nil => rfl
  | cons next rest => exact (read?_cons _ next rest).trans (read?_void rest)

/-- A single reads exactly one token. -/
theorem read?_single (accepts : token → Bool) (result : token → value) (tokens : List token) :
    (single accepts result : Grammar token meaning value).read? rules tokens =
      match tokens with
      | [only] => if accepts only then some (result only) else none
      | _ => none := by
  cases tokens with
  | nil => rfl
  | cons next rest =>
    rw [read?_cons, step, derivative]
    cases accepted : accepts next <;> cases rest <;> simp [accepted, empty?]

theorem read?_orElse (first second : Grammar token meaning value) (tokens : List token) :
    (orElse first second).read? rules tokens = (first.read? rules tokens).or (second.read? rules tokens) := by
  induction tokens generalizing first second with
  | nil => exact empty?_orElse first second
  | cons next rest again =>
    have pushed : step rules next (orElse first second) = orElse (step rules next first) (step rules next second) := by
      cases first <;> cases second <;> first | rfl | exact (orElse_void _).symm
    rw [read?_cons, read?_cons, read?_cons, pushed, again]

/-- A choice reads what its first side reads, and otherwise what its second side reads. -/
theorem read?_choice (first second : Grammar token meaning value) (tokens : List token) :
    (choice first second).read? rules tokens = (first.read? rules tokens).or (second.read? rules tokens) := by
  cases tokens with
  | nil => rfl
  | cons next rest =>
    rw [read?_cons, read?_cons, read?_cons]
    exact read?_orElse _ _ rest

/-- Behind the first token of a sequence, its first part goes on or, if it may be empty, the second part begins. -/
theorem read?_step_sequence (first : Grammar token meaning left) (second : Grammar token meaning right)
    (result : left → right → value) (next : token) (rest : List token) :
    (step rules next (sequence first second result)).read? rules rest =
      ((andThen (step rules next first) second result).read? rules rest).or
        (Option.map₂ result first.empty? ((step rules next second).read? rules rest)) := by
  simp only [step, derivative, isNullable_eq]
  cases none_or : first.empty? with
  | none => simp
  | some one =>
    simp only [Option.isSome_some, ↓reduceIte]
    cases remaining : derivative _ next second with
    | void => simp
    | _ => rw [read?_orElse, read?_map, ← remaining, Option.map₂_coe_left]

theorem read?_andThen (first : Grammar token meaning left) (second : Grammar token meaning right)
    (result : left → right → value) (tokens : List token) :
    (andThen first second result).read? rules tokens =
      (split? (first.read? rules) (second.read? rules) tokens).map fun (one, two) => result one two := by
  induction tokens generalizing first with
  | nil => simp [split?, Option.map_map₂]
  | cons next rest again =>
    have stepped : (andThen first second result).read? rules (next :: rest) =
        ((andThen (step rules next first) second result).read? rules rest).or
          (Option.map₂ result first.empty? ((step rules next second).read? rules rest)) := by
      cases first with
      | void => simp [andThen, step, derivative, empty?]
      | unit one => simp [andThen, step, derivative, derivative_map, empty?, read?_cons, Option.map₂_coe_left]
      | _ =>
        rw [← read?_step_sequence]
        cases second with
        | void => simp [step, derivative]
        | _ => exact read?_cons _ next rest
    rw [stepped, again, split?, Option.map_or, Option.map_map₂]
    simp only [read?_cons, read?_nil]

/-- A sequence reads the longest beginning that its first part takes when its second part takes what is left. -/
theorem read?_sequence (first : Grammar token meaning left) (second : Grammar token meaning right)
    (result : left → right → value) (tokens : List token) :
    (sequence first second result).read? rules tokens =
      (split? (first.read? rules) (second.read? rules) tokens).map fun (one, two) => result one two := by
  rw [← read?_andThen]
  cases tokens with
  | nil =>
    rw [read?_nil, read?_nil, empty?_andThen, empty?]
    cases second.empty? <;> cases first.empty? <;> rfl
  | cons next rest =>
    cases first with
    | void => simp [andThen, read?_cons, step, derivative, isNullable]
    | unit one =>
      rw [read?_cons, read?_step_sequence, andThen, read?_map, read?_cons]
      simp [step, derivative, andThen, empty?, Option.map₂_coe_left]
    | _ =>
      cases second with
      | void => simp [read?_cons, step, derivative]
      | _ => rfl

/-- A sequence reads two parts of which the first cannot be any longer. -/
theorem read?_sequence_eq_some {first : Grammar token meaning left} {second : Grammar token meaning right}
    {result : left → right → value} {beginning rest : List token} {one : left} {two : right}
    (readFirst : first.read? rules beginning = some one) (readSecond : second.read? rules rest = some two)
    (longest : ∀ added left, added ≠ [] → rest = added ++ left →
      first.read? rules (beginning ++ added) = none ∨ second.read? rules left = none) :
    (sequence first second result).read? rules (beginning ++ rest) = some (result one two) := by
  rw [read?_sequence, split?_eq_some readFirst readSecond longest]
  rfl

/-- A repetition reads nothing, or the longest first member that more members can follow. -/
theorem read?_repeated_cons (body : Grammar token meaning element) (result : List element → value) (next : token)
    (rest : List token) :
    (repeated body result).read? rules (next :: rest) =
      (split? (fun beginning => body.read? rules (next :: beginning)) ((repeated body id).read? rules) rest).map
        fun (head, tail) => result (head :: tail) := by
  simp only [read?_cons]
  exact read?_andThen _ _ _ rest

@[simp] theorem read?_repeated_nil (body : Grammar token meaning element) (result : List element → value) :
    (repeated body result).read? rules [] = some (result []) := rfl

/-- A witnessed grammar hands on the tokens it reads. -/
theorem read?_witnessed (body : Grammar token meaning inner) (result : List token → inner → value)
    (tokens : List token) :
    (witnessed body result).read? rules tokens = (body.read? rules tokens).map (result tokens) := by
  induction tokens generalizing body result with
  | nil => rfl
  | cons next rest again =>
    rw [read?_cons, read?_cons, ← again (step rules next body) fun tokens inner => result (next :: tokens) inner, step,
      derivative, step]
    cases derivative _ next body with
    | void => cases rest <;> rfl
    | _ => rfl

/-- A guarded grammar does not look at its rules for the first token. -/
theorem derivative_of_isGuarded {grammar : Grammar token meaning value} (guarded : grammar.isGuarded = true)
    (one two : (which : name) → Grammar token meaning (meaning which)) (next : token) :
    derivative one next grammar = derivative two next grammar := by
  induction grammar with
  | sequence first second result ofFirst ofSecond =>
    simp only [isGuarded, Bool.and_eq_true, Bool.or_eq_true, Bool.not_eq_true'] at guarded
    obtain ⟨ofFirst', ofSecond'⟩ := guarded
    simp only [derivative, ofFirst ofFirst']
    rcases ofSecond' with plain | guarded
    · simp [plain]
    · simp only [ofSecond guarded]
  | choice first second ofFirst ofSecond =>
    simp only [isGuarded, Bool.and_eq_true] at guarded
    simp only [derivative, ofFirst guarded.1, ofSecond guarded.2]
  | repeated body result ofBody => simp only [derivative, ofBody guarded]
  | witnessed body result ofBody => simp only [derivative, ofBody guarded]
  | rule which result => simp [isGuarded] at guarded
  | _ => rfl

/-- Nothing remains of a grammar behind a token that no member begins with. -/
theorem derivative_of_not_mayBegin {next : token} {grammar : Grammar token meaning value}
    (excluded : grammar.mayBegin next = false) (unfolded : (which : name) → Grammar token meaning (meaning which)) :
    derivative unfolded next grammar = void := by
  induction grammar with
  | void => rfl
  | unit result => rfl
  | single accepts result => simp [derivative, show accepts next = false from excluded]
  | rule which result => cases excluded
  | sequence first second result ofFirst ofSecond =>
    obtain ⟨noFirst, noSecond⟩ := Bool.or_eq_false_iff.mp excluded
    simp only [derivative, ofFirst noFirst, andThen]
    split
    next nullable =>
      rw [nullable, Bool.true_and] at noSecond
      rw [ofSecond noSecond]
    next => rfl
  | choice first second ofFirst ofSecond =>
    obtain ⟨noFirst, noSecond⟩ := Bool.or_eq_false_iff.mp excluded
    simp only [derivative, ofFirst noFirst, ofSecond noSecond, orElse]
  | repeated body result ofBody => simp only [derivative, ofBody excluded, andThen]
  | witnessed body result ofBody => simp only [derivative, ofBody excluded]

/-- A rule that is guarded and not empty reads what it stands for. -/
theorem read?_rule {which : name} (guarded : (rules which).isGuarded = true)
    (proper : (rules which).isNullable = false) (result : meaning which → value) (tokens : List token) :
    (rule which result : Grammar token meaning value).read? rules tokens =
      ((rules which).read? rules tokens).map result := by
  cases tokens with
  | nil =>
    rw [isNullable_eq, Option.isSome_eq_false_iff, Option.isNone_iff_eq_none] at proper
    rw [read?_nil, read?_nil, proper]
    rfl
  | cons next rest =>
    rw [read?_cons, read?_cons, ← read?_map]
    exact congrArg (fun remaining => (Grammar.map result remaining).read? rules rest)
      (derivative_of_isGuarded guarded _ _ next)

/-- A grammar reads no token list that begins with a token that no member begins with. -/
theorem read?_of_not_mayBegin {next : token} {grammar : Grammar token meaning value}
    (excluded : grammar.mayBegin next = false) (rest : List token) : grammar.read? rules (next :: rest) = none := by
  rw [read?_cons, step, derivative_of_not_mayBegin excluded]
  exact read?_void rest

/-! Taking apart what was read -/

/-- What a sequence reads consists of what its parts read. -/
theorem exists_of_read?_sequence {first : Grammar token meaning left} {second : Grammar token meaning right}
    {result : left → right → value} {tokens : List token} {found : value}
    (read : (sequence first second result).read? rules tokens = some found) :
    ∃ beginning rest one two, tokens = beginning ++ rest ∧ first.read? rules beginning = some one ∧
      second.read? rules rest = some two ∧ result one two = found := by
  rw [read?_sequence] at read
  obtain ⟨⟨one, two⟩, parts, same⟩ := Option.map_eq_some_iff.mp read
  obtain ⟨beginning, rest, joined, readFirst, readSecond⟩ := exists_of_split? parts
  exact ⟨beginning, rest, one, two, joined, readFirst, readSecond, same⟩

/-- What a choice reads is read by one of its sides. -/
theorem or_of_read?_choice {first second : Grammar token meaning value} {tokens : List token} {found : value}
    (read : (choice first second).read? rules tokens = some found) :
    first.read? rules tokens = some found ∨ second.read? rules tokens = some found := by
  rw [read?_choice] at read
  rcases Option.or_eq_some_iff.mp read with readFirst | ⟨-, readSecond⟩
  · exact .inl readFirst
  · exact .inr readSecond

theorem exists_of_read?_map {transform : value → other} {grammar : Grammar token meaning value} {tokens : List token}
    {found : other} (read : (grammar.map transform).read? rules tokens = some found) :
    ∃ before, grammar.read? rules tokens = some before ∧ transform before = found := by
  rw [read?_map] at read
  exact Option.map_eq_some_iff.mp read

/-- A token list falls into nonempty parts, each with the value that a grammar reads from it. -/
inductive Parts (rules : (which : name) → Grammar token meaning (meaning which)) (body : Grammar token meaning value) :
    List token → List value → Prop
  | nil : Parts rules body [] []
  | cons {part rest : List token} {head : value} {tail : List value} (read : body.read? rules part = some head)
      (proper : part ≠ []) (others : Parts rules body rest tail) : Parts rules body (part ++ rest) (head :: tail)

/-- A repetition reads the parts of a token list. -/
theorem parts_of_read?_many {body : Grammar token meaning value} {tokens : List token} {values : List value}
    (read : (many body).read? rules tokens = some values) : Parts rules body tokens values := by
  induction measured : tokens.length using Nat.strongRecOn generalizing tokens values with
  | _ length again =>
    cases tokens with
    | nil =>
      cases read
      exact .nil
    | cons next rest =>
      rw [many, read?_repeated_cons] at read
      obtain ⟨⟨head, tail⟩, split, rfl⟩ := Option.map_eq_some_iff.mp read
      obtain ⟨beginning, rest, rfl, readHead, readTail⟩ := exists_of_split? split
      have shorter : rest.length < length := by
        simp only [List.length_cons, List.length_append] at measured
        omega
      exact .cons readHead (List.cons_ne_nil next beginning) (again rest.length shorter readTail rfl)

/-- A repetition reads a part that cannot be read longer as one member, and then what is left. -/
theorem read?_many_cons {body : Grammar token meaning value} {part rest : List token} {head : value} {tail : List value}
    (read : body.read? rules part = some head) (proper : part ≠ [])
    (others : (many body).read? rules rest = some tail)
    (longest : ∀ added left, added ≠ [] → rest = added ++ left → body.read? rules (part ++ added) = none) :
    (many body).read? rules (part ++ rest) = some (head :: tail) := by
  obtain ⟨next, behind, rfl⟩ := List.exists_cons_of_ne_nil proper
  have split : split? (fun beginning => body.read? rules (next :: beginning)) ((repeated body id).read? rules)
      (behind ++ rest) = some (head, tail) :=
    split?_eq_some read others fun added left added_ne joined => .inl (longest added left added_ne joined)
  rw [many, List.cons_append, read?_repeated_cons, split]
  rfl

/-- A repetition reads a token list as one member when the body reads the whole list. -/
theorem read?_many_of_read? {body : Grammar token meaning value} {tokens : List token} {found : value}
    (read : body.read? rules tokens = some found) (proper : tokens ≠ []) :
    (many body).read? rules tokens = some [found] := by
  have whole := read?_many_cons read proper (read?_repeated_nil body id) fun _ _ added_ne joined =>
    absurd (List.append_eq_nil_iff.mp joined.symm).1 added_ne
  rwa [List.append_nil] at whole

/-! Acceptance -/

/-- A grammar reads something from a whole token list. -/
def Accepts (rules : (which : name) → Grammar token meaning (meaning which)) (grammar : Grammar token meaning value)
    (tokens : List token) : Prop :=
  (grammar.read? rules tokens).isSome = true

instance (grammar : Grammar token meaning value) (tokens : List token) : Decidable (grammar.Accepts rules tokens) :=
  inferInstanceAs (Decidable (_ = true))

theorem Accepts.map {grammar : Grammar token meaning value} {tokens : List token}
    (accepts : grammar.Accepts rules tokens) (transform : value → other) :
    (grammar.map transform).Accepts rules tokens := by
  rw [Accepts, read?_map, Option.isSome_map]
  exact accepts

theorem Accepts.sequence {first : Grammar token meaning left} {second : Grammar token meaning right}
    {beginning rest : List token} (ofFirst : first.Accepts rules beginning) (ofSecond : second.Accepts rules rest)
    (result : left → right → value) : (Grammar.sequence first second result).Accepts rules (beginning ++ rest) := by
  rw [Accepts, read?_sequence, Option.isSome_map]
  exact split?_isSome ofFirst ofSecond

theorem Accepts.ofFirst {first second : Grammar token meaning value} {tokens : List token}
    (accepts : first.Accepts rules tokens) : (choice first second).Accepts rules tokens := by
  rw [Accepts, read?_choice, Option.isSome_or, show (first.read? rules tokens).isSome = true from accepts]
  rfl

theorem Accepts.ofSecond {first second : Grammar token meaning value} {tokens : List token}
    (accepts : second.Accepts rules tokens) : (choice first second).Accepts rules tokens := by
  rw [Accepts, read?_choice, Option.isSome_or, show (second.read? rules tokens).isSome = true from accepts,
    Bool.or_true]

/-- A repetition accepts what falls into parts that its body reads. -/
theorem Parts.accepts {body : Grammar token meaning value} {tokens : List token} {values : List value}
    (parts : Parts rules body tokens values) : (many body).Accepts rules tokens := by
  induction parts with
  | nil => rfl
  | @cons part rest head _ read proper _ again =>
    obtain ⟨next, behind, rfl⟩ := List.exists_cons_of_ne_nil proper
    have ofHead : (body.read? rules (next :: behind)).isSome = true := by rw [read]; rfl
    rw [Accepts, many, List.cons_append, read?_repeated_cons, Option.isSome_map]
    have split : (split? (fun beginning => body.read? rules (next :: beginning)) ((repeated body id).read? rules)
        (behind ++ rest)).isSome = true := split?_isSome ofHead again
    exact split

/-- Where one of the values is read that are read one behind another. -/
theorem Parts.exists_of_mem {body : Grammar token meaning value} {tokens : List token} {values : List value}
    (parts : Parts rules body tokens values) {found : value} (member : found ∈ values) :
    ∃ front part back, tokens = front ++ part ++ back ∧ (many body).Accepts rules front ∧
      body.read? rules part = some found ∧ (many body).Accepts rules back := by
  induction parts with
  | nil => cases member
  | @cons first rest _ _ read proper others again =>
    rcases List.mem_cons.mp member with rfl | member
    · exact ⟨[], first, rest, rfl, rfl, read, others.accepts⟩
    · obtain ⟨front, part, back, rfl, ofFront, readPart, ofBack⟩ := again member
      obtain ⟨values, readFront⟩ := Option.isSome_iff_exists.mp ofFront
      exact ⟨first ++ front, part, back, by simp, (Parts.cons read proper (parts_of_read?_many readFront)).accepts, readPart,
        ofBack⟩

theorem Parts.append {body : Grammar token meaning value} {one two : List token} {values values' : List value}
    (first : Parts rules body one values) (second : Parts rules body two values') :
    Parts rules body (one ++ two) (values ++ values') := by
  induction first with
  | nil => exact second
  | cons read proper _ again =>
    rw [List.append_assoc]
    exact .cons read proper again

/-- Where no part can be read any longer before what begins a part, a repetition reads two lists one behind the other. -/
theorem read?_many_append {body : Grammar token meaning value} {begins : token → Prop}
    (beginning : ∀ {next rest}, body.Accepts rules (next :: rest) → begins next)
    (whole : ∀ {part added}, body.Accepts rules part → added ≠ [] → (∀ next ∈ added.head?, begins next) →
      body.read? rules (part ++ added) = none)
    {one two : List token} {values values' : List value} (ofOne : (many body).read? rules one = some values)
    (ofTwo : (many body).read? rules two = some values') :
    (many body).read? rules (one ++ two) = some (values ++ values') := by
  have parts := parts_of_read?_many ofOne
  clear ofOne
  induction parts with
  | nil => exact ofTwo
  | @cons part rest head tail read proper _ again =>
    rw [List.append_assoc]
    refine read?_many_cons read proper again fun added left added_ne joined =>
      whole (Option.isSome_iff_exists.mpr ⟨head, read⟩) added_ne fun next first => ?_
    -- what is added begins as the rest does, with a part
    obtain ⟨behind, rfl⟩ := List.head?_eq_some_iff.mp first
    have others := parts_of_read?_many again
    rw [joined, List.cons_append] at others
    generalize same : next :: (behind ++ left) = tokens, tail ++ values' = found at others
    cases others with
    | nil => cases same
    | cons readPart proper =>
      obtain ⟨first', behind', rfl⟩ := List.exists_cons_of_ne_nil proper
      obtain ⟨rfl, -⟩ := List.cons_eq_cons.mp same
      exact beginning (Option.isSome_iff_exists.mpr ⟨_, readPart⟩)

/-- Where the first part of a sequence may be empty and cannot begin with a token, the second part begins with it. -/
theorem read?_sequence_of_void {first : Grammar token meaning left} {second : Grammar token meaning right}
    {result : left → right → value} {next : token} {one : left} (empty : first.empty? = some one)
    (stuck : step rules next first = void) (rest : List token) :
    (sequence first second result).read? rules (next :: rest) =
      (second.read? rules (next :: rest)).map (result one) := by
  rw [read?_cons, read?_step_sequence, stuck, empty, read?_cons]
  simp [andThen, Option.map₂_coe_left]

end Reading

end Grammar

end Exposure
