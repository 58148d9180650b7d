import Lineage.Diagram.Basic
import Lineage.Statement.Placement

/-!
# The links of a statement

In the view of tables there is one link for every pair of boxes that are connected. In the
view of columns there is a link for every connection of two columns, and one for every other
pair that is connected.
-/

namespace Lineage

/-- The words for the ways to join. -/
def joinLabels : List (String × String) :=
  [("INNER", "INNER JOIN"),
   ("LEFT", "LEFT JOIN"),
   ("LEFT_OUTER", "LEFT JOIN"),
   ("RIGHT", "RIGHT JOIN"),
   ("RIGHT_OUTER", "RIGHT JOIN"),
   ("FULL", "FULL JOIN"),
   ("FULL_OUTER", "FULL JOIN"),
   ("CROSS", "CROSS JOIN"),
   ("LEFT_SEMI", "SEMI JOIN"),
   ("LEFT_ANTI", "ANTI JOIN")]

/-- A text with blanks in the place of underscores. -/
def spaced (text : String) : String :=
  String.ofList (text.toList.map fun c => if c = '_' then ' ' else c)

/-- The label of a link that joins in some way. -/
def joinLabel (joinType : Option String) : Option String :=
  (Text.filled joinType).map fun t => (joinLabels.lookup (Text.upper t)).getD (spaced t)

namespace Placement

/-- The plain link that a connection of two boxes becomes. -/
def relationLink (p : Placement) (c : Connection) : Link :=
  { id := Link.pairId c.source.box c.target.box
    source := c.source.box
    target := c.target.box
    label := joinLabel (p.joinType c.source.box)
    flow := some
      { kind := c.edge.kind
        joinType := p.joinType c.source.box
        joinCondition := p.joinCondition c.source.box } }

/-- The link that a connection of joined boxes becomes. -/
def joinLink (p : Placement) (c : Connection) : Link :=
  let joinType := Text.orElse c.edge.joinType (p.joinType c.source.box)
  { id := c.edge.id
    source := c.source.box
    target := c.target.box
    label := joinLabel joinType
    flow := some
      { kind := .joinDependency
        joinType := joinType
        joinCondition := Text.orElse c.edge.joinCondition (p.joinCondition c.source.box) } }

/-- The link that a connection of two columns becomes. -/
def columnLink (p : Placement) (c : Connection) : Link :=
  let target := p.ownership.column? c.edge.target
  let expression := Text.orElse c.edge.expression (target.bind Node.expression)
  { id := c.edge.id
    source := c.source.box
    target := c.target.box
    sourceHandle := c.source.handle
    targetHandle := c.target.handle
    flow := some
      { kind := c.edge.kind
        expression := expression
        sourceColumn := (p.ownership.column? c.edge.source).map Node.label
        targetColumn := target.map Node.label
        isDerived := c.edge.kind = .derivation || Text.isFilled expression } }

/-- The connections of two columns. -/
def columnFlows (p : Placement) : List Connection :=
  p.flows.filter Connection.joinsColumns

/-- The connections that touch a relation itself. -/
def relationFlows (p : Placement) : List Connection :=
  p.flows.filter fun c => !c.joinsColumns

/-- The links of the view of tables. -/
def tableLinks (p : Placement) : List Link :=
  Keyed.firsts Link.pair (p.flows.map p.relationLink ++ p.joins.map p.joinLink)

/-- The links of the view of columns. -/
def columnLinks (p : Placement) : List Link :=
  let plain := Keyed.firsts Link.pair (p.relationFlows.map p.relationLink ++ p.joins.map p.joinLink)
  let drawn := p.columnFlows.map Connection.pair
  p.columnFlows.map p.columnLink ++ plain.filter fun l => !drawn.contains l.pair

end Placement

end Lineage
