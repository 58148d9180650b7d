import Lineage.Statement.Merge
import Lineage.View.Links
import Lineage.View.Scripts

/-!
# Rendering

`View.build` draws the diagram of a view, unless there is a `View.Fault`, and `View.render` passes
it on through what the options ask for: links of collapsed boxes are redrawn, the schemas and
databases in scope are kept, then what is connected to the search, then what is connected to the
selected tables, and links that miss an end are dropped. `View.warnings` is what is printed
meanwhile.
-/

namespace Lineage

/-- The view of the tables of a statement. -/
def Placement.tableDiagram (p : Placement) (options : Options) :
    Except View.Fault Diagram :=
  (p.boxes options).map fun boxes => { boxes := boxes, links := p.tableLinks }

/-- The view of the columns of a statement. -/
def Placement.columnDiagram (p : Placement) (options : Options) :
    Except View.Fault Diagram :=
  (p.boxes options).map fun boxes => { boxes := boxes, links := p.columnLinks }

/-- The placement of the merger of some statements. -/
def Placement.ofStatements (statements : List Statement) : Placement :=
  Placement.ofStatement (Statement.merge statements)

/-- Focuses a diagram on what is connected to the search, if the search finds anything. -/
def Diagram.focus (d : Diagram) (view : View) (term : String) : Diagram :=
  match d.matches view term with
  | [] => d
  | found => d.highlighting (Reach.connectedToAny d.links .both found)

/-- Focuses a diagram if the options ask for it. -/
def Options.focused (options : Options) (view : View) (d : Diagram) : Diagram :=
  if options.focus && options.searchTerm ≠ "" then d.focus view options.searchTerm else d

namespace View

/-- The diagram of a view. -/
def build (view : View) (statements : List Statement) (options : Options) :
    Except View.Fault Diagram :=
  match view with
  | .table => (Placement.ofStatements statements).tableDiagram options
  | .column => (Placement.ofStatements statements).columnDiagram options
  | .script => .ok (Script.diagram statements options)
  | .hybrid => (Script.hybridDiagram statements options).mapError .name

/-- Passes a diagram on through what the options ask for. -/
def refine (view : View) (options : Options) (d : Diagram) : Diagram :=
  let kept := d.remap.within options.scope
  ((options.focused view kept).connectedTo options.selection).prune

/-- The diagram of a view as the options ask for it. -/
def render (view : View) (statements : List Statement) (options : Options) :
    Except View.Fault Diagram :=
  (view.build statements options).map (view.refine options)

/-- What is printed about the choices in the catalog while a view is built. -/
def warnings (view : View) (statements : List Statement) (options : Options) : String :=
  match view with
  | .table | .column => Placement.notices options (Placement.ofStatements statements).drawOrder
  | _ => ""

end View

end Lineage
