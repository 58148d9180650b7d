import Lineage.Impact.Reach
import Lineage.Text.Code

/-!
# Impact

The impact of an element of a diagram: all that it depends on and all that depends on it,
each with the side that it is on and its distance.
-/

namespace Lineage

/-- What an element is. -/
inductive ElementKind where
  | box
  | column
  | link
  deriving DecidableEq, Repr, Inhabited

/-- The word for a kind of elements. -/
def ElementKind.name : ElementKind → String
  | box => "node"
  | column => "column"
  | link => "edge"

/-- An element that a trace met. -/
structure Impacted where
  id : String
  kind : ElementKind
  /-- The side of the start that the element is on. -/
  direction : Direction
  /-- The number of links between the start and the element. -/
  hops : Int
  deriving DecidableEq, Repr, Inhabited

/-- The order of a report: by side, by distance and by id. -/
def Impacted.le (a b : Impacted) : Bool :=
  if a.direction.name ≠ b.direction.name then a.direction.name < b.direction.name
  else if a.hops ≠ b.hops then a.hops < b.hops
  else Text.precedes a.id b.id

/-- The impact of an element. -/
structure Impact where
  start : String
  direction : Direction
  elements : List Impacted
  deriving DecidableEq, Repr, Inhabited

/-- The ids of the start and of all that was met. -/
def Impact.ids (i : Impact) : List String :=
  i.start :: i.elements.map Impacted.id

namespace Diagram

/-- Whether an id names a box, a column or a link of a diagram. -/
def names (d : Diagram) (id : String) : Bool :=
  d.elements.contains id || d.links.any (·.id = id)

/-- What a stop of a trace is. -/
def kindOf (d : Diagram) : Stop → ElementKind
  | .link _ => .link
  | .node id => if d.boxIds.contains id then .box else .column

/-- What a trace meets in one direction. -/
def impacted (d : Diagram) (direction : Direction) (start : String) : List Impacted :=
  (Reach.hops d.links direction start).map fun s =>
    { id := s.1.id, kind := d.kindOf s.1, direction := direction, hops := s.2 }

/-- An id that names nothing in a diagram. -/
structure Unknown where
  id : String
  deriving DecidableEq, Repr

/-- The report of an id that names nothing. -/
def Unknown.message (u : Unknown) : String :=
  s!"Element '{u.id}' not found in graph"

/-- The impact of an element. Going both ways is going each way on its own. What the order does not
tell apart, a link and an element of its id, is listed in the order in which it was met. -/
def trace (d : Diagram) (direction : Direction) (start : String) : Except Unknown Impact :=
  if d.names start then
    let met :=
      match direction with
      | .both => d.impacted .backward start ++ d.impacted .forward start
      | side => d.impacted side start
    .ok { start := start, direction := direction, elements := met.mergeSort Impacted.le }
  else .error ⟨start⟩

end Diagram

end Lineage
