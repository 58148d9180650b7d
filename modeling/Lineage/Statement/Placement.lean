import Lineage.Statement.Ownership

/-!
# Placement

Where the nodes of a statement are drawn. A column is drawn in the box of its owner, or in
the box of the output if it is an orphan, and its id is the handle that links are fixed to.
A relation is drawn as a box of its own. All other nodes are not drawn. A `Connection` is an
edge of the statement whose ends are drawn in two different boxes.
-/

namespace Lineage

/-- A box, and a handle in it. -/
structure Place where
  box : String
  handle : Option String := none
  deriving DecidableEq, Repr, Inhabited

/-- An edge with the places of its ends. -/
structure Connection where
  edge : Edge
  source : Place
  target : Place
  deriving DecidableEq, Repr, Inhabited

/-- The boxes that a connection joins. -/
def Connection.pair (c : Connection) : String × String :=
  (c.source.box, c.target.box)

/-- Whether both ends of a connection are columns. -/
def Connection.joinsColumns (c : Connection) : Bool :=
  c.source.handle.isSome && c.target.handle.isSome

/-- A statement with the owners of its columns. -/
structure Placement where
  statement : Statement
  ownership : Ownership
  /-- The columns that are drawn in the box of the output. -/
  orphans : List Node

namespace Placement

/-- The placement of a statement. -/
def ofStatement (s : Statement) : Placement :=
  let o := Ownership.ofStatement s
  { statement := s, ownership := o, orphans := s.orphans o }

/-- The box of the output. -/
def outputId (p : Placement) : String :=
  p.ownership.outputId

/-- The place of a node. -/
def place? (p : Placement) (id : String) : Option Place :=
  match p.ownership.ownerOf? id with
  | some owner => some { box := owner, handle := some id }
  | none =>
    if Ownership.has p.orphans id then some { box := p.outputId, handle := some id }
    else if Ownership.has p.ownership.relations id then some { box := id }
    else none

/-- The connection that an edge makes. -/
def connection? (p : Placement) (e : Edge) : Option Connection :=
  match p.place? e.source, p.place? e.target with
  | some source, some target =>
    if source.box = target.box then none else some ⟨e, source, target⟩
  | _, _ => none

/-- The connections that the edges of some kinds make. -/
def connections (p : Placement) (kinds : EdgeKind → Bool) : List Connection :=
  (p.statement.edges.filter fun e => kinds e.kind).filterMap p.connection?

/-- The connections that move data. -/
def flows (p : Placement) : List Connection :=
  p.connections EdgeKind.isFlow

/-- The connections that only say that one relation is joined to another. -/
def joins (p : Placement) : List Connection :=
  p.connections (· = .joinDependency)

/-- How a relation is joined. -/
def joinType (p : Placement) (relation : String) : Option String :=
  (p.ownership.relation? relation).bind Node.joinType

/-- The condition on which a relation is joined. -/
def joinCondition (p : Placement) (relation : String) : Option String :=
  (p.ownership.relation? relation).bind Node.joinCondition

end Placement

end Lineage
