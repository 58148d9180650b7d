import Lineage.Text.Search
import Lineage.View.Options

/-!
# Searching a diagram

What a search finds depends on the view: columns in the view of columns, tables in the view
of tables, and scripts and tables in the other two.
-/

namespace Lineage

/-- Whether a search finds a label or one of the names of some columns. -/
def matchesSearch (term label : String) (columns : List Column) : Bool :=
  Text.finds term label || columns.any fun c => Text.finds term c.name

/-- What a search finds in a box. -/
def Box.matches (b : Box) (view : View) (term : String) : List String :=
  match view with
  | .column =>
    match b.table? with
    | none => []
    | some face =>
      (face.columns.filter fun c => Text.finds term face.label || Text.finds term c.name).map
        Column.id
  | .table =>
    match b.table? with
    | none => []
    | some face => if Text.finds term face.label then [b.id] else []
  | _ =>
    if b.kind ≠ .table ∧ Text.finds term b.face.label then [b.id] else []

/-- What a search finds in a diagram. -/
def Diagram.matches (d : Diagram) (view : View) (term : String) : List String :=
  d.boxes.flatMap fun b => b.matches view term

end Lineage
