namespace Exposure

/-- A grammar describes token lists and the value read from each of them; a rule stands for a named grammar. -/
inductive Grammar (token : Type) {name : Type} (meaning : name → Type) : Type → Type 1
  | void {value : Type} : Grammar token meaning value
  | unit {value : Type} (result : value) : Grammar token meaning value
  | single {value : Type} (accepts : token → Bool) (result : token → value) : Grammar token meaning value
  | rule {value : Type} (which : name) (result : meaning which → value) : Grammar token meaning value
  | sequence {value left right : Type} (first : Grammar token meaning left) (second : Grammar token meaning right)
      (result : left → right → value) : Grammar token meaning value
  | choice {value : Type} (first second : Grammar token meaning value) : Grammar token meaning value
  | repeated {value element : Type} (body : Grammar token meaning element) (result : List element → value) :
      Grammar token meaning value
  | witnessed {value inner : Type} (body : Grammar token meaning inner) (result : List token → inner → value) :
      Grammar token meaning value

namespace Grammar

variable {token name : Type} {meaning : name → Type} {value other left right : Type}

/-- Apply a function to every value a grammar reads. -/
def map (transform : value → other) : Grammar token meaning value → Grammar token meaning other
  | void => void
  | unit result => unit (transform result)
  | single accepts result => single accepts (transform ∘ result)
  | rule which result => rule which (transform ∘ result)
  | sequence first second result => sequence first second fun one two => transform (result one two)
  | choice first second => choice (map transform first) (map transform second)
  | repeated body result => repeated body (transform ∘ result)
  | witnessed body result => witnessed body fun tokens inner => transform (result tokens inner)

/-- Sequence two grammars, dropping impossible and empty parts. -/
def andThen (first : Grammar token meaning left) (second : Grammar token meaning right)
    (result : left → right → value) : Grammar token meaning value :=
  match first with
  | void => void
  | unit one => second.map (result one)
  | remaining =>
    match second with
    | void => void
    | two => sequence remaining two result

/-- Join two grammars, dropping an impossible side. -/
def orElse (first second : Grammar token meaning value) : Grammar token meaning value :=
  match first, second with
  | void, two => two
  | one, void => one
  | one, two => choice one two

/-- The value of the empty token list, when the grammar accepts it. -/
def empty? : {value : Type} → Grammar token meaning value → Option value
  | _, void => none
  | _, unit result => Option.some result
  | _, single _ _ => none
  | _, rule _ _ => none
  | _, sequence first second result =>
    match empty? second with
    | none => none
    | some two => (empty? first).map fun one => result one two
  | _, choice first second => (empty? first).or (empty? second)
  | _, repeated _ result => Option.some (result [])
  | _, witnessed body result => (empty? body).map (result [])

/-- The grammar accepts the empty token list. -/
def isNullable : {value : Type} → Grammar token meaning value → Bool
  | _, void => false
  | _, unit _ => true
  | _, single _ _ => false
  | _, rule _ _ => false
  | _, sequence first second _ => isNullable second && isNullable first
  | _, choice first second => isNullable first || isNullable second
  | _, repeated _ _ => true
  | _, witnessed body _ => isNullable body

/-- What remains of a grammar after one token, given what remains of each rule. -/
def derivative (unfolded : (which : name) → Grammar token meaning (meaning which)) (next : token) :
    {value : Type} → Grammar token meaning value → Grammar token meaning value
  | _, void => void
  | _, unit _ => void
  | _, single accepts result => if accepts next then unit (result next) else void
  | _, rule which result => (unfolded which).map result
  | _, sequence first second result =>
    let continued := andThen (derivative unfolded next first) second result
    if isNullable first then
      match derivative unfolded next second with
      | void => continued
      | remaining =>
        match empty? first with
        | none => continued
        | some one => orElse continued (remaining.map (result one))
    else continued
  | _, choice first second => orElse (derivative unfolded next first) (derivative unfolded next second)
  | _, repeated body result =>
    andThen (derivative unfolded next body) (repeated body id) fun head tail => result (head :: tail)
  | _, witnessed body result =>
    match derivative unfolded next body with
    | void => void
    | remaining => witnessed remaining fun tokens inner => result (next :: tokens) inner

/-- What remains of a grammar after one token; a rule may not begin with a rule. -/
def step (rules : (which : name) → Grammar token meaning (meaning which)) (next : token)
    (grammar : Grammar token meaning value) : Grammar token meaning value :=
  derivative (fun which => derivative (fun _ => void) next (rules which)) next grammar

/-- No token list belongs to the impossible grammar. -/
def isVoid : Grammar token meaning value → Bool
  | void => true
  | _ => false

/-- What remains of a grammar after a token list, or the first token that no member of the grammar continues with. -/
def run (rules : (which : name) → Grammar token meaning (meaning which)) :
    Grammar token meaning value → List token → Except token (Grammar token meaning value)
  | grammar, [] => .ok grammar
  | grammar, next :: rest =>
    let remaining := step rules next grammar
    if remaining.isVoid then .error next else run rules remaining rest

instance : Functor (Grammar token meaning) where
  map := map

instance : Applicative (Grammar token meaning) where
  pure := unit
  seq transform argument := sequence transform (argument ()) fun apply given => apply given
  seqLeft kept dropped := sequence kept (dropped ()) fun result _ => result
  seqRight dropped kept := sequence dropped (kept ()) fun _ result => result

instance : OrElse (Grammar token meaning value) where
  orElse first second := choice first (second ())

/-- Every list of members of a grammar. -/
def many (body : Grammar token meaning value) : Grammar token meaning (List value) := repeated body id

/-- Every nonempty list of members of a grammar. -/
def several (body : Grammar token meaning value) : Grammar token meaning (List value) :=
  List.cons <$> body <*> many body

/-- A member of a grammar or nothing. -/
def optional (body : Grammar token meaning value) : Grammar token meaning (Option value) :=
  Option.some <$> body <|> pure none

/-- Every list of members with a separator between neighbours and perhaps one at the end. -/
def separated (separator : Grammar token meaning other) (body : Grammar token meaning value) :
    Grammar token meaning (List value) :=
  (List.cons <$> body <*> many (separator *> body)) <* optional separator <|> pure []

/-- Every nonempty list of members with a separator between neighbours. -/
def joined (separator : Grammar token meaning other) (body : Grammar token meaning value) :
    Grammar token meaning (value × List value) :=
  Prod.mk <$> body <*> many (separator *> body)

end Grammar

end Exposure
