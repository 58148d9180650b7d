import Lineage.Report.Part
import Lineage.Statement.Home
import Lineage.Statement.Placement
import Lineage.View.Search

/-!
# The boxes of a statement

There is a box for every relation of the statement, with the columns that it owns, and a box
for the output if there are orphans. The catalog may know more columns of a table: they are
counted, and they are shown if the table is expanded. A choice between tables of the catalog is
reported before the box is drawn. There are no boxes if such a report cannot be shown, or if it
cannot be told where a relation lives.
-/

namespace Lineage

/-- Why a view cannot be drawn. -/
inductive View.Fault where
  /-- The report of a choice in the catalog cannot be shown. -/
  | report (fault : Text.MarkFault)
  /-- A name cannot be taken apart that tells where a relation lives. -/
  | name (fault : QualifiedName.Fault)
  deriving DecidableEq, Repr

/-- The shape in which a relation is drawn. -/
def NodeKind.shape : NodeKind → TableShape
  | .cte => .cte
  | .view => .view
  | _ => .table

/-- A column of a statement as it is drawn. -/
def Column.ofNode (n : Node) : Column :=
  { id := n.id, name := n.label, expression := n.expression, sourceName := n.sourceName }

/-- A column that only the catalog knows, as it is drawn in a box. -/
def Catalog.Column.shown (box : String) (c : Catalog.Column) : Lineage.Column :=
  { id := s!"{box}__schema_{c.name}", name := c.name, expression := c.dataType }

/-- The columns of a table that only the catalog knows. -/
def Catalog.unseen (catalog : Option Catalog) (label : String) (qualifiedName : Option String)
    (columns : List Lineage.Column) : List Catalog.Column :=
  match catalog.bind fun c => c.find? label qualifiedName with
  | none => []
  | some table => table.missing (columns.map Lineage.Column.name)

/-- Columns together with the number of further columns that the catalog knows. -/
structure Completed where
  columns : List Column
  hidden : Nat
  deriving DecidableEq, Repr

/-- What is printed about the choice that is made in the catalog for a relation. -/
def Catalog.notice (catalog : Option Catalog) (label : String) (qualifiedName : Option String) :
    Except Text.MarkFault String :=
  match catalog.bind fun c => c.ambiguity? label qualifiedName with
  | none => .ok ""
  | some ambiguity => (Report.Part.line ambiguity.message).text

/-- The columns of a table, with those that only the catalog knows if it is expanded. If the table
is one of several, that is reported first. -/
def Catalog.complete (catalog : Option Catalog) (label : String) (qualifiedName : Option String)
    (box : String) (columns : List Lineage.Column) (expanded : Bool) :
    Except Text.MarkFault Completed :=
  let unseen := Catalog.unseen catalog label qualifiedName columns
  (Catalog.notice catalog label qualifiedName).map fun _ =>
    { columns := if expanded then columns ++ unseen.map (Catalog.Column.shown box) else columns
      hidden := unseen.length }

namespace Placement

/-- The relations in the order in which they are drawn: those that only the statement knows
come last. -/
def drawOrder (p : Placement) : List Node :=
  let relations := p.ownership.relations
  relations.filter (·.kind ≠ .cte) ++ relations.filter (·.kind = .cte)

/-- The columns in the box of a relation. -/
def completed (p : Placement) (options : Options) (n : Node) : Except Text.MarkFault Completed :=
  Catalog.complete options.catalog n.label n.qualifiedName n.id
    ((p.ownership.owned n.id).map Column.ofNode) (options.expanded.contains n.id)

/-- The box of a relation that lives somewhere, with some columns. -/
def relationBox (p : Placement) (options : Options) (n : Node) (shown : Completed) (home : Home) :
    Box :=
  { id := n.id
    kind := .table
    face := .table
      { label := n.label
        shape := n.kind.shape
        columns := shown.columns
        isSelected := options.selected = some n.id
        isHighlighted := matchesSearch options.searchTerm n.label shown.columns
        isCollapsed := options.collapses n.id
        isBaseTable := (Statement.baseTables p.ownership).contains n.id
        isRecursive := p.statement.recursive.contains n.id
        hiddenColumns := shown.hidden
        qualifiedName := some n.sharedName
        schemaName := home.schema
        database := home.database
        joinType := n.joinType
        joinCondition := n.joinCondition
        sourceName := n.sourceName } }

/-- The text on the box of the output. -/
def outputLabel : String := "Output"

/-- The box of the output. -/
def outputBox (p : Placement) (options : Options) : Box :=
  let columns := p.orphans.map Column.ofNode
  { id := p.outputId
    kind := .table
    face := .table
      { label := outputLabel
        shape := .output
        columns := columns
        isSelected := options.selected = some p.outputId
        isHighlighted := matchesSearch options.searchTerm outputLabel columns
        isCollapsed := options.collapses p.outputId } }

/-- The box of a relation, which is drawn once its columns and its home are known. -/
def box (p : Placement) (options : Options) (n : Node) : Except View.Fault Box := do
  let shown ← (p.completed options n).mapError .report
  let home ← n.home.mapError .name
  return p.relationBox options n shown home

/-- The boxes of a statement. -/
def boxes (p : Placement) (options : Options) : Except View.Fault (List Box) := do
  let relations ← p.drawOrder.mapM (p.box options)
  return relations ++ if p.orphans.isEmpty then [] else [p.outputBox options]

/-- What is printed about the choices in the catalog while the boxes of some relations are drawn.
Drawing ends with the first relation that has none. -/
def notices (options : Options) : List Node → String
  | [] => ""
  | n :: ns =>
    match Catalog.notice options.catalog n.label n.qualifiedName with
    | .error _ => ""
    | .ok notice => notice ++ if n.home.isOk then notices options ns else ""

end Placement

end Lineage
