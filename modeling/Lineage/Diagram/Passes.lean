import Lineage.Diagram.Basic

/-!
# Passes over a diagram

A pass narrows a diagram or redraws its links. The passes that may find nothing to do give
`none` in that case, and the diagram stays as it is.

* `remapped?` draws one plain link for every pair of boxes of which one is collapsed.
* `within?` keeps the boxes of some schemas and databases.
* `highlighting` keeps the boxes that some elements are in.
* `pruned?` drops the links whose ends are not there.
-/

namespace Lineage

namespace Diagram

/-! ### Collapsed boxes -/

/-- The boxes that are collapsed. -/
def collapsed (d : Diagram) : List String :=
  (d.boxes.filter Box.isCollapsed).map Box.id

/-- Whether one of the ends of a link is a collapsed box. -/
def touchesCollapsed (d : Diagram) (l : Link) : Bool :=
  d.collapsed.contains l.source || d.collapsed.contains l.target

end Diagram

/-- Whether a link is fixed to a column at one of its ends. -/
def Link.isAnchored (l : Link) : Bool :=
  Text.isFilled l.sourceHandle || Text.isFilled l.targetHandle

/-- A link that is fixed to columns becomes the plain link between its boxes. -/
def Link.plain (l : Link) : Link :=
  if l.isAnchored then
    { l with id := pairId l.source l.target, sourceHandle := none, targetHandle := none }
  else l

namespace Diagram

/-- The links as they are drawn when the collapsed boxes hide their columns: of the links
that touch such a box, the first of every pair, without handles. `seen` holds the pairs that
are drawn already. -/
def remapLinks (touches : Link → Bool) (seen : List (String × String)) :
    List Link → List Link
  | [] => []
  | l :: ls =>
    if !touches l then l :: remapLinks touches seen ls
    else if seen.contains l.pair then remapLinks touches seen ls
    else l.plain :: remapLinks touches (l.pair :: seen) ls

/-- Whether a link is left out or loses a handle when the links are drawn in this way. -/
def redraws (touches : Link → Bool) (seen : List (String × String)) : List Link → Bool
  | [] => false
  | l :: ls =>
    if !touches l then redraws touches seen ls
    else if seen.contains l.pair then true
    else l.isAnchored || redraws touches (l.pair :: seen) ls

/-- The diagram with the links of collapsed boxes redrawn, or nothing if none changes. -/
def remapped? (d : Diagram) : Option Diagram :=
  if d.collapsed.isEmpty then none
  else if redraws d.touchesCollapsed [] d.links then
    some { d with links := remapLinks d.touchesCollapsed [] d.links }
  else none

/-- The diagram with the links of collapsed boxes redrawn. -/
def remap (d : Diagram) : Diagram :=
  d.remapped?.getD d

end Diagram

/-! ### Schemas and databases -/

/-- The schemas and databases that are kept. An empty list keeps all. -/
structure Scope where
  schemas : List String := []
  databases : List String := []
  deriving DecidableEq, Repr, Inhabited

namespace Scope

/-- Whether a scope leaves anything out. -/
def isActive (s : Scope) : Bool :=
  !s.schemas.isEmpty || !s.databases.isEmpty

/-- Whether a list of names admits a name that may be missing. -/
def admits (names : List String) (name : Option String) : Bool :=
  names.isEmpty || (Text.filled name).elim true names.contains

/-- Whether a box is in a scope. Scripts and the output always are. -/
def holds (s : Scope) (b : Box) : Bool :=
  match b.table? with
  | none => true
  | some face =>
    face.shape = .output || (admits s.schemas face.schemaName && admits s.databases face.database)

end Scope

namespace Diagram

/-- The boxes that satisfy a test, and the links whose ends are elements of these boxes. -/
def keep (d : Diagram) (p : Box → Bool) : Diagram :=
  let boxes := d.boxes.filter p
  let elements := boxes.flatMap Box.elements
  { boxes := boxes
    links := d.links.filter fun l =>
      elements.contains l.sourceElement && elements.contains l.targetElement }

/-- The part of the diagram in a scope, or nothing if the scope leaves nothing out. -/
def within? (d : Diagram) (scope : Option Scope) : Option Diagram :=
  match scope with
  | none => none
  | some s => if s.isActive then some (d.keep s.holds) else none

/-- The part of the diagram in a scope. -/
def within (d : Diagram) (scope : Scope) : Diagram :=
  (d.within? (some scope)).getD d

/-- The schemas that boxes are in. -/
def schemas (d : Diagram) : List String :=
  d.boxes.filterMap fun b => b.table?.bind fun face => Text.filled face.schemaName

/-- The databases that boxes are in. -/
def databases (d : Diagram) : List String :=
  d.boxes.filterMap fun b => b.table?.bind fun face => Text.filled face.database

/-! ### Highlights -/

/-- The part of the diagram that some elements are in: the boxes that are among them or have
a column among them. -/
def highlighting (d : Diagram) (elements : List String) : Diagram :=
  d.keep fun b => b.elements.any elements.contains

/-! ### Loose links -/

/-- Whether a handle is one of those of a box, or no handle at all. -/
def fits (handles : List String) (handle : Option String) : Bool :=
  (Text.filled handle).elim true handles.contains

/-- Whether both ends of a link are there. -/
def resolves (d : Diagram) (l : Link) : Bool :=
  d.boxIds.contains l.source && d.boxIds.contains l.target &&
    fits (d.handlesOf l.source) l.sourceHandle && fits (d.handlesOf l.target) l.targetHandle

/-- The diagram without the links that miss an end, or nothing if there are none. -/
def pruned? (d : Diagram) : Option Diagram :=
  if d.links.all d.resolves then none else some { d with links := d.links.filter d.resolves }

/-- The diagram without the links that miss an end. -/
def prune (d : Diagram) : Diagram :=
  d.pruned?.getD d

end Diagram

end Lineage
