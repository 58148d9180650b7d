import Lineage.Diagram.Basic

/-!
# Reach

A trace through a diagram steps from an element to a link that leaves it, and from a link
to the element that it reaches. `distances` counts the steps from a start, in rounds: a
round finds what is one step beyond the elements of the round before. `connected` is all
that a trace meets, and `hops` counts the links on the way.
-/

namespace Lineage

/-- The ways to follow the links of a diagram. -/
inductive Direction where
  /-- Against the links, to what an element depends on. -/
  | backward
  /-- Along the links, to what depends on an element. -/
  | forward
  | both
  deriving DecidableEq, Repr, Inhabited

/-- The names of the directions. -/
def Direction.names : List (String × Direction) :=
  [("upstream", backward), ("downstream", forward), ("both", both)]

/-- The name of a direction. -/
def Direction.name : Direction → String
  | backward => "upstream"
  | forward => "downstream"
  | both => "both"

/-- A stop of a trace: a box or column, or a link. -/
inductive Stop where
  | node (id : String)
  | link (id : String)
  deriving DecidableEq, Repr

/-- The id of a stop. -/
def Stop.id : Stop → String
  | node id => id
  | link id => id

/-- The steps over a link. -/
def Link.steps (l : Link) : List (Stop × Stop) :=
  [(.node l.sourceElement, .link l.id), (.link l.id, .node l.targetElement)]

namespace Reach

/-- The steps over some links, with the links. -/
def steps (links : List Link) : List (Stop × Stop) :=
  links.flatMap Link.steps

/-- The steps in a direction: against the links only when going backward. -/
def stepsIn (direction : Direction) (links : List Link) : List (Stop × Stop) :=
  match direction with
  | .backward => (steps links).map Prod.swap
  | _ => steps links

/-- The stop that an id names, if it names one: a link is preferred. -/
def stop? (links : List Link) (id : String) : Option Stop :=
  if links.any (·.id = id) then some (.link id)
  else if links.any fun l => l.sourceElement = id ∨ l.targetElement = id then some (.node id)
  else none

/-- The stops that are one step beyond those at a distance and not reached yet. -/
def beyond (steps : List (Stop × Stop)) (distance : Nat) (reached : List (Stop × Nat)) :
    List Stop :=
  Keyed.distinct <| (steps.filter fun s =>
    reached.lookup s.1 = some distance ∧ reached.lookup s.2 = none).map Prod.snd

/-- What is reached after some more rounds, or when a round finds nothing. -/
def spread (steps : List (Stop × Stop)) : Nat → Nat → List (Stop × Nat) → List (Stop × Nat)
  | 0, _, reached => reached
  | rounds + 1, distance, reached =>
    match beyond steps distance reached with
    | [] => reached
    | found =>
      spread steps rounds (distance + 1) (reached ++ found.map fun s => (s, distance + 1))

/-- The stops that are reached from a start, with the least number of steps to each. There
are no more rounds than steps. -/
def distances (steps : List (Stop × Stop)) (start : Stop) : List (Stop × Nat) :=
  spread steps steps.length 0 [(start, 0)]

/-- The ids of what is reached from a start by some steps. -/
def reached (steps : List (Stop × Stop)) (start : Stop) : List String :=
  (distances steps start).map fun s => s.1.id

/-- All that is connected to an element in a direction, with the element itself. Both ways
are followed on their own: what is found going backward is not followed forward. -/
def connected (links : List Link) (direction : Direction) (start : String) : List String :=
  match stop? links start with
  | none => [start]
  | some stop =>
    let behind := reached (stepsIn .backward links) stop
    let ahead := reached (stepsIn .forward links) stop
    start :: match direction with
      | .backward => behind
      | .forward => ahead
      | .both => ahead ++ behind

/-- All that is connected to one of some elements. -/
def connectedToAny (links : List Link) (direction : Direction) (starts : List String) :
    List String :=
  starts.flatMap (connected links direction)

/-- The number of links on the way to a stop that is some steps away. -/
def linksOn (steps : Nat) : Nat :=
  (steps + 1) / 2

/-- The stops that are reached from an element, with the least number of links on the way.
The element itself is left out. -/
def hops (links : List Link) (direction : Direction) (start : String) : List (Stop × Nat) :=
  match stop? links start with
  | none => []
  | some stop =>
    ((distances (stepsIn direction links) stop).filter (·.1 ≠ stop)).map fun s =>
      (s.1, linksOn s.2)

end Reach

end Lineage
