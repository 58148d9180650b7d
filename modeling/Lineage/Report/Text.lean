import Lineage.Diagram.Document
import Lineage.Report.Csv
import Lineage.Report.Part
import Lineage.Text.Sorted
import Lineage.View.Options

/-!
# Reports

The reports and texts in which diagrams, impacts, searches and namespaces are shown.
-/

namespace Lineage

open Report

/-! ### Diagrams -/

/-- The row of a box: its id, what it shows, its label and the number of its columns. -/
def Box.row (b : Box) : List String :=
  match b.face with
  | .table face => [b.id, face.shape.name, face.label, toString face.columns.length]
  | .script face => [b.id, b.kind.name, face.label, ""]

/-- The row of a link: its ends and its label. -/
def Link.row (l : Link) : List String :=
  [l.sourceElement, l.targetElement, l.label.getD ""]

/-- The table of the boxes. -/
def Diagram.boxTable (d : Diagram) (view : View) : Table :=
  { title := s!"Nodes ({view.name} view)"
    headings := [⟨"Id", false⟩, ⟨"Type", false⟩, ⟨"Label", false⟩, ⟨"Columns", true⟩]
    rows := d.boxes.map Box.row }

/-- The table of the links. -/
def Diagram.linkTable (d : Diagram) : Table :=
  { title := "Edges"
    headings := [⟨"Source", false⟩, ⟨"Target", false⟩, ⟨"Label", false⟩]
    rows := d.links.map Link.row }

/-- The report of a diagram. -/
def Diagram.report (d : Diagram) (view : View) : List Part :=
  if d.boxes.isEmpty then [.line "[yellow]Graph is empty[/yellow]"]
  else
    let links := if d.links.isEmpty then [] else [Part.table d.linkTable]
    let boxCount := d.boxes.length
    let linkCount := d.links.length
    .table (d.boxTable view) :: links ++
      [.line s!"\n[dim]Total: {boxCount} node(s), {linkCount} edge(s)[/dim]"]

/-! ### Impacts -/

/-- The table of an impact. -/
def Impact.table (i : Impact) : Table :=
  { title := s!"Impact of '{i.start}'"
    headings := [⟨"Element", false⟩, ⟨"Type", false⟩, ⟨"Direction", false⟩, ⟨"Hops", true⟩]
    rows := i.elements.map Impacted.fields }

/-- The report of an impact. -/
def Impact.report (i : Impact) : List Part :=
  if i.elements.isEmpty then [.line s!"[yellow]Nothing connected to '{i.start}'[/yellow]"]
  else
    let count := i.elements.length
    [.table i.table, .line s!"\n[dim]Total: {count} element(s)[/dim]"]

/-- The document of an element. -/
def Impacted.document (e : Impacted) : Data :=
  .record
    [("id", .text e.id),
     ("element_type", .text e.kind.name),
     ("direction", .text e.direction.name),
     ("hops", .int e.hops)]

/-- The document of an impact. -/
def Impact.document (i : Impact) : Data :=
  .record
    [("start_id", .text i.start),
     ("direction", .text i.direction.name),
     ("elements", .list (i.elements.map Impacted.document))]

/-- The JSON text of an impact. -/
def Impact.save (i : Impact) : String :=
  Json.write .indented i.document

/-! ### Searches -/

/-- The report of what a search found. -/
def searchReport (term : String) (found : List String) : List Part :=
  if found.isEmpty then [.line s!"[yellow]No matches found for '{term}'[/yellow]"]
  else
    let count := found.length
    found.map .line ++ [.line s!"\n[dim]Total: {count} match(es)[/dim]"]

/-- The JSON text of what a search found. -/
def searchJson (view : View) (term : String) (found : List String) : String :=
  Json.write .indentedAscii <| .record
    [("term", .text term), ("view", .text view.name), ("matches", .ofTexts found)]

/-! ### Namespaces -/

/-- The report of the databases and schemas of a diagram. -/
def Diagram.namespaceReport (d : Diagram) : List Part :=
  let rows :=
    (Text.sorted d.databases).map (["database", ·]) ++ (Text.sorted d.schemas).map (["schema", ·])
  if rows.isEmpty then [.line "[yellow]No namespaces found[/yellow]"]
  else
    [.table
      { title := "Namespaces", headings := [⟨"Kind", false⟩, ⟨"Name", false⟩], rows := rows }]

end Lineage
