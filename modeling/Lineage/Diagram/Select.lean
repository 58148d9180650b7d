import Lineage.Diagram.Passes
import Lineage.Impact.Reach

/-!
# Selected tables

A diagram can be narrowed to what is connected to some tables, which are given by their
labels.
-/

namespace Lineage

/-- The labels of some tables and the direction in which to follow the links. -/
structure Selection where
  labels : List String := []
  direction : Direction := .both
  deriving DecidableEq, Repr, Inhabited

namespace Diagram

/-- The labels of the tables, each with the boxes that have it. -/
def labelMap (d : Diagram) : List (String × List String) :=
  Keyed.collect Prod.fst (fun old new => (old.1, old.2 ++ new.2)) <|
    d.boxes.filterMap fun b => b.table?.map fun face => (face.label, [b.id])

/-- The tables that a selection names. -/
def selected (d : Diagram) (s : Selection) : List String :=
  (d.boxes.filter fun b => b.table?.elim false fun face => s.labels.contains face.label).map
    Box.id

/-- The elements that a selection starts from: the tables that it names and their columns. -/
def selectedElements (d : Diagram) (s : Selection) : List String :=
  d.selected s ++
    (d.boxes.filter fun b => (d.selected s).contains b.id).flatMap Box.handles

/-- The part of the diagram that is connected to a selection, or nothing if nothing is
selected. -/
def connectedTo? (d : Diagram) (selection : Option Selection) : Option Diagram :=
  match selection with
  | none => none
  | some s =>
    if s.labels.isEmpty then none
    else if (d.selected s).isEmpty then some {}
    else
      some <| d.highlighting <|
        Reach.connectedToAny d.links s.direction (d.selectedElements s) ++ d.selected s

/-- The part of the diagram that is connected to a selection. -/
def connectedTo (d : Diagram) (s : Selection) : Diagram :=
  (d.connectedTo? (some s)).getD d

end Diagram

end Lineage
