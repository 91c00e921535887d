/-!
Chains of links in a text whose stretches may continue several of the chains that are open, as in a call whose output is
a path: which chain each stretch continues is settled here by the kinds of the chains alone.
-/

namespace Exposure

/-- The two kinds of chain in a type: the segments of a path, and the bounds behind a word. -/
inductive ChainKind where
  | path | bounds
  deriving DecidableEq, Repr

namespace Chain

/-- The text between two joints: the kind of chain that it continues, and the kinds that it opens, outermost first. -/
structure Stretch where
  joint : Option ChainKind
  opened : List ChainKind
  deriving Repr

/-- A chain, as the stretch that opens it and its level there; level zero is the link that the stretch begins with. -/
structure Place where
  stretch : Nat
  level : Nat
  deriving DecidableEq, Repr

namespace Place

/-- The next chain that the same stretch opens. -/
def inner (place : Place) : Place := ⟨place.stretch, place.level + 1⟩

/-- The chain, or the link at the beginning of the stretch, that a chain is the end of. -/
def outer (place : Place) : Place := ⟨place.stretch, place.level - 1⟩

end Place

/-- The links of a chain behind one of its joints, which is counted from zero. -/
structure Tail where
  kind : ChainKind
  joint : Nat
  deriving DecidableEq, Repr

/-- What a stretch is found to end: the first link of a chain, or a tail; or a chain that may go on behind that link. -/
inductive Finding where
  | link (place : Place)
  | tail (tail : Tail)
  | goesOn (place : Place)
  deriving DecidableEq, Repr

/-- The kind of a chain. -/
def kindAt? (stretches : List Stretch) (place : Place) : Option ChainKind :=
  match place.level with
  | 0 => none
  | level + 1 => (stretches[place.stretch]?).bind (·.opened[level]?)

/-- The chains whose first link ends, in the order in which this is found. -/
def headed (findings : List Finding) : List Place :=
  findings.filterMap fun finding =>
    match finding with
    | .link place => if place.level = 0 then none else some place
    | _ => none

/-- The tails that may go on behind a stretch, in the order in which they are found. -/
def pending (stretches : List Stretch) (stretch : Nat) (findings : List Finding) : List Tail :=
  (findings.filterMap fun finding =>
    match finding with
    | .link _ => none
    | .tail tail => some tail
    | .goesOn place => (kindAt? stretches place).map (⟨·, stretch⟩)).eraseDups

/-- The tails that the link at the beginning of a stretch may be the last link of. -/
def continued (stretches : List Stretch) (history : List (List Finding)) (stretch : Nat) : List Tail :=
  (pending stretches (stretch - 1) (history.getD (stretch - 1) [])).filter fun tail =>
    (stretches[stretch]?).bind (·.joint) = some tail.kind

/-- What follows from a finding, given what earlier stretches are found to end. -/
def consequences (stretches : List Stretch) (history : List (List Finding)) : Finding → List Finding
  | .link place =>
    if place.level = 0 then (continued stretches history place.stretch).map Finding.tail
    else [.goesOn place, .link place.outer]
  | .tail tail =>
    ((headed (history.getD tail.joint [])).filter fun place =>
      kindAt? stretches place = some tail.kind).map fun place => .link place.outer
  | .goesOn _ => []

/-- Follow the findings of an agenda, each before those put there earlier, and none that was known before. -/
def explore (follow : Finding → List Finding) : Nat → List Finding → List Finding → List Finding
  | 0, _, _ => []
  | _, _, [] => []
  | fuel + 1, known, finding :: agenda =>
    let fresh := (follow finding).filter (!known.contains ·)
    finding :: explore follow fuel (fresh ++ known) (fresh.reverse ++ agenda)

/-- More than the number of findings that some stretches allow. -/
def allowance (stretches : List Stretch) : Nat :=
  stretches.foldl (fun total stretch => total + 2 * stretch.opened.length + 4) 0

/-- What each of some stretches is found to end. -/
def findings (stretches : List Stretch) : List (List Finding) :=
  stretches.zipIdx.foldl (fun history (stretch, index) =>
    let first := Finding.link ⟨index, stretch.opened.length⟩
    history ++ [explore (consequences stretches history) (allowance stretches) [first] [first]]) []

/-- The joint behind the first link of a chain that reaches the end of a stretch, if it has several links. -/
def firstJoint? (history : List (List Finding)) (kind : ChainKind) (place : Place) (last : Nat) : Option Nat :=
  (history.getD last []).findSome? fun finding =>
    match finding with
    | .tail tail =>
      if tail.kind = kind && (headed (history.getD tail.joint [])).contains place then some tail.joint else none
    | _ => none

/-- The stretch at which the last link of a tail begins that reaches the end of a stretch; one link is preferred. -/
def lastLink (stretches : List Stretch) (history : List (List Finding)) (tail : Tail) (last : Nat) : Nat :=
  let candidates := (history.getD last []).filterMap fun finding =>
    match finding with
    | .link place =>
      if place.level = 0 && (continued stretches history place.stretch).contains tail then some place.stretch
      else none
    | _ => none
  if candidates.contains (tail.joint + 1) then tail.joint + 1 else candidates.headD (tail.joint + 1)

mutual

/-- The chains that the stretches continue which lie inside a chain up to the end of a stretch. -/
def ownersInChain (stretches : List Stretch) (history : List (List Finding)) :
    Nat → Place → Nat → List Place
  | 0, _, _ => []
  | fuel + 1, place, last =>
    match kindAt? stretches place with
    | none => []
    | some kind =>
      match firstJoint? history kind place last with
      | none => ownersInChain stretches history fuel place.inner last
      | some joint =>
        ownersInChain stretches history fuel place.inner joint ++
          ownersInTail stretches history fuel place ⟨kind, joint⟩ last

/-- The chains that the stretches continue which lie inside a tail of a chain up to the end of a stretch. -/
def ownersInTail (stretches : List Stretch) (history : List (List Finding)) :
    Nat → Place → Tail → Nat → List Place
  | 0, _, _, _ => []
  | fuel + 1, place, tail, last =>
    let link := lastLink stretches history tail last
    (if link = tail.joint + 1 then [] else ownersInTail stretches history fuel place tail (link - 1)) ++
      place :: ownersInChain stretches history fuel ⟨link, 1⟩ last

end

/-- The chain that each stretch but the first continues: where several may, a chain of several links is preferred to
one link, and then the division into links that is found first. -/
def owners (stretches : List Stretch) : List Place :=
  ownersInChain stretches (findings stretches) (allowance stretches) ⟨0, 1⟩ (stretches.length - 1)

end Chain

end Exposure
