import Lineage.Keyed
import Lineage.Statement.Basic

/-!
# Diagrams

A diagram has boxes and links between them. A box shows a table, with a list of columns, or
a script. A link joins two boxes, and each of its ends may be fixed to a column of its box,
the handle. Boxes, columns and links are the elements of a diagram.
-/

namespace Lineage

/-- A column in a box. Its id is the handle that links are fixed to. -/
structure Column where
  id : String
  name : String
  expression : Option String := none
  sourceName : Option String := none
  deriving DecidableEq, Repr, Inhabited

/-- What the table in a box is. -/
inductive TableShape where
  | table
  | view
  | cte
  | output
  deriving DecidableEq, Repr, Inhabited

/-- The words for the shapes. -/
def TableShape.names : List (String × TableShape) :=
  [("table", table), ("view", view), ("cte", cte), ("output", output)]

/-- The word for a shape. -/
def TableShape.name : TableShape → String
  | table => "table"
  | view => "view"
  | cte => "cte"
  | output => "output"

/-- The table in a box. -/
structure TableFace where
  label : String
  shape : TableShape
  columns : List Column := []
  isSelected : Bool := false
  isHighlighted : Bool := false
  isCollapsed : Bool := false
  isBaseTable : Bool := false
  isRecursive : Bool := false
  /-- The number of columns that only the catalog knows. -/
  hiddenColumns : Int := 0
  qualifiedName : Option String := none
  schemaName : Option String := none
  database : Option String := none
  joinType : Option String := none
  joinCondition : Option String := none
  sourceName : Option String := none
  deriving DecidableEq, Repr, Inhabited

/-- The script in a box. -/
structure ScriptFace where
  label : String
  sourceName : String
  tablesRead : List String := []
  tablesWritten : List String := []
  statementCount : Int := 0
  isSelected : Bool := false
  isHighlighted : Bool := false
  deriving DecidableEq, Repr, Inhabited

/-- What a box shows. -/
inductive Face where
  | table (face : TableFace)
  | script (face : ScriptFace)
  deriving DecidableEq, Repr, Inhabited

/-- The text on a box. -/
def Face.label : Face → String
  | table face => face.label
  | script face => face.label

/-- How a box is drawn. -/
inductive BoxKind where
  | table
  | simpleTable
  | script
  deriving DecidableEq, Repr, Inhabited

/-- The words for the kinds of boxes. -/
def BoxKind.names : List (String × BoxKind) :=
  [("table", table), ("simple_table", simpleTable), ("script", script)]

/-- The word for a kind of boxes. -/
def BoxKind.name : BoxKind → String
  | table => "table"
  | simpleTable => "simple_table"
  | script => "script"

/-- A box of a diagram. -/
structure Box where
  id : String
  kind : BoxKind
  face : Face
  deriving DecidableEq, Repr, Inhabited

namespace Box

/-- The table in a box, if it shows one. -/
def table? (b : Box) : Option TableFace :=
  match b.face with
  | .table face => some face
  | .script _ => none

/-- The columns in a box. -/
def columns (b : Box) : List Column :=
  b.table?.elim [] TableFace.columns

/-- The handles of a box. -/
def handles (b : Box) : List String :=
  b.columns.map Column.id

/-- The elements that a box brings along: itself and its columns. -/
def elements (b : Box) : List String :=
  b.id :: b.handles

/-- Whether a box is collapsed. -/
def isCollapsed (b : Box) : Bool :=
  b.table?.elim false TableFace.isCollapsed

end Box

/-- What a link stands for. -/
structure Flow where
  kind : EdgeKind
  expression : Option String := none
  sourceColumn : Option String := none
  targetColumn : Option String := none
  isDerived : Bool := false
  joinType : Option String := none
  joinCondition : Option String := none
  deriving DecidableEq, Repr, Inhabited

/-- A link from one box to another. -/
structure Link where
  id : String
  source : String
  target : String
  sourceHandle : Option String := none
  targetHandle : Option String := none
  label : Option String := none
  flow : Option Flow := none
  deriving DecidableEq, Repr, Inhabited

namespace Link

/-- The element that a link leaves: the handle, or else the box. -/
def sourceElement (l : Link) : String :=
  (Text.filled l.sourceHandle).getD l.source

/-- The element that a link reaches: the handle, or else the box. -/
def targetElement (l : Link) : String :=
  (Text.filled l.targetHandle).getD l.target

/-- The boxes that a link joins. -/
def pair (l : Link) : String × String :=
  (l.source, l.target)

/-- The id of the one link between two boxes. -/
def pairId (source target : String) : String :=
  s!"edge_{source}_to_{target}"

end Link

/-- Boxes and links. -/
structure Diagram where
  boxes : List Box := []
  links : List Link := []
  deriving DecidableEq, Repr, Inhabited

namespace Diagram

/-- The first box of an id. -/
def box? (d : Diagram) (id : String) : Option Box :=
  d.boxes.find? (·.id = id)

/-- The ids of the boxes. -/
def boxIds (d : Diagram) : List String :=
  d.boxes.map Box.id

/-- The ids of the boxes and of their columns. -/
def elements (d : Diagram) : List String :=
  d.boxes.flatMap Box.elements

/-- The table boxes, each id once and with its last box. -/
def tableBoxes (d : Diagram) : List Box :=
  Keyed.lasts Box.id (d.boxes.filter (·.table?.isSome))

/-- The handles that links to the box of an id may be fixed to. -/
def handlesOf (d : Diagram) (id : String) : List String :=
  (d.tableBoxes.find? (·.id = id)).elim [] Box.handles

/-- The pairs of boxes that a link joins. -/
def pairs (d : Diagram) : List (String × String) :=
  d.links.map Link.pair

end Diagram

end Lineage
