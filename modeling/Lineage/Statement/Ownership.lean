import Lineage.Keyed
import Lineage.Statement.Basic
import Lineage.Text.Case

/-!
# Ownership

Which relation owns which column of a statement. A column belongs to the relation of the
first ownership edge that joins a relation to it. Columns without an owner are the result
of the statement, and are gathered under an output node, unless the statement changes data
and writes to a stored relation: then they are steps on the way there and are left out.
-/

namespace Lineage

/-- The relations and columns of a statement, and the owners of the columns. An id that is
used twice counts once, in its first place and with its last node. -/
structure Ownership where
  relations : List Node
  columns : List Node
  /-- The columns that have an owner, each with the id of its owner, in the order of the
  ownership edges. -/
  owners : List (String × String)
  /-- The first output node. -/
  output : Option Node

namespace Ownership

/-- The node of an id in a list of nodes. -/
def find? (nodes : List Node) (id : String) : Option Node :=
  nodes.find? (·.id = id)

/-- Whether a list of nodes has an id. -/
def has (nodes : List Node) (id : String) : Bool :=
  nodes.any (·.id = id)

/-- The columns that an edge joins to an owner. -/
def ownedBy (relations columns : List Node) (e : Edge) : Option (String × String) :=
  if e.kind = .ownership ∧ has relations e.source ∧ has columns e.target then
    some (e.target, e.source)
  else none

/-- The ownership of a statement. -/
def ofStatement (s : Statement) : Ownership :=
  let relations := Keyed.lasts Node.id (s.nodes.filter (·.kind.isRelation))
  let columns := Keyed.lasts Node.id (s.nodes.filter (·.kind = .column))
  { relations := relations
    columns := columns
    owners := Keyed.firsts Prod.fst (s.edges.filterMap (ownedBy relations columns))
    output := s.nodes.find? (·.kind = .output) }

/-- The relation of an id. -/
def relation? (o : Ownership) (id : String) : Option Node :=
  find? o.relations id

/-- The column of an id. -/
def column? (o : Ownership) (id : String) : Option Node :=
  find? o.columns id

/-- The id of the owner of a column. -/
def ownerOf? (o : Ownership) (column : String) : Option String :=
  o.owners.lookup column

/-- The columns of a relation. -/
def owned (o : Ownership) (relation : String) : List Node :=
  (o.owners.filter (·.2 = relation)).filterMap fun p => o.column? p.1

/-- The columns that no relation owns. -/
def unowned (o : Ownership) : List Node :=
  o.columns.filter fun c => (o.ownerOf? c.id).isNone

/-- The id of the output node that the library adds. -/
def virtualOutputId : String := "virtual:output"

/-- The id of the output node. -/
def outputId (o : Ownership) : String :=
  (o.output.map Node.id).getD virtualOutputId

end Ownership

namespace Statement

/-- The types of statements that only read. -/
def queryTypes : List String :=
  ["SELECT", "WITH", "UNION", "INTERSECT", "EXCEPT", "VALUES"]

/-- Whether a statement only reads. -/
def isQuery (s : Statement) : Bool :=
  queryTypes.contains (Text.upper s.type)

/-- Whether data flows into a stored relation, or into a column that it owns. -/
def writesStored (s : Statement) (o : Ownership) : Bool :=
  s.edges.any fun e =>
    e.kind.isFlow &&
      match o.relation? ((Text.filled (o.ownerOf? e.target)).getD e.target) with
      | some r => r.kind.isStored
      | none => false

/-- The columns that are shown under the output node. -/
def orphans (s : Statement) (o : Ownership) : List Node :=
  if !s.isQuery && s.writesStored o then [] else o.unowned

/-- The tables that the joins of a statement start from: if any relation is joined, the
tables that are not. -/
def baseTables (o : Ownership) : List String :=
  if o.relations.any fun r => Text.isFilled r.joinType then
    (o.relations.filter fun r => r.kind = .table ∧ ¬Text.isFilled r.joinType).map Node.id
  else []

/-- The nodes that data flows from into themselves. -/
def recursive (s : Statement) : List String :=
  (s.edges.filter fun e => e.kind = .dataFlow ∧ e.source = e.target).map Edge.source

end Statement

end Lineage
