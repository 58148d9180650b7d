import Lineage.Proofs.Merging
import Lineage.Proofs.Names
import Lineage.Proofs.Notices
import Lineage.Proofs.Scripts

/-!
# Views that cannot be drawn

`View.housed` are the relations of which a view tells where they live. They are looked at in turn,
and the first one with a fault says why the view cannot be drawn. Either it has a name that cannot
be taken apart, or it stands for one of several tables of the catalog and that choice cannot be
reported. A relation has its name and its label from one of the statements.
-/

namespace Lineage

namespace View

/-- The relations of which a view tells where they live, in the order in which they are drawn. -/
def housed (view : View) (statements : List Statement) : List Node :=
  match view with
  | .table | .column => (Placement.ofStatements statements).drawOrder
  | .script => []
  | .hybrid => (Script.relations (Script.group statements)).map Script.Shared.node

/-- The catalog that a view looks into. The views of scripts show no columns and look into none. -/
def catalog? (view : View) (options : Options) : Option Catalog :=
  match view with
  | .table | .column => options.catalog
  | .script | .hybrid => none

/-- A view fails to be drawn as the first of its relations with a fault. -/
theorem build_eq_error_iff {view : View} {statements : List Statement} {options : Options}
    {fault : View.Fault} :
  view.build statements options = .error fault
    ↔ (view.housed statements).findSome? (Node.drawFault? (view.catalog? options)) = some fault
  := by
  cases view with
  | table =>
    rw [housed, catalog?, ← Placement.boxes_eq_error_iff, build, Placement.tableDiagram]
    cases (Placement.ofStatements statements).boxes options <;> simp [Except.map]
  | column =>
    rw [housed, catalog?, ← Placement.boxes_eq_error_iff, build, Placement.columnDiagram]
    cases (Placement.ofStatements statements).boxes options <;> simp [Except.map]
  | script => simp [build, housed]
  | hybrid =>
    have hfaults : Node.drawFault? none = Option.map View.Fault.name ∘ Node.fault? :=
      funext Node.drawFault?_none
    rw [housed, catalog?, hfaults, ← List.map_findSome?, Option.map_eq_some_iff]
    have hhybrid (cause : QualifiedName.Fault) :
        Script.hybridDiagram statements options = .error cause ↔ _ :=
      Script.hybridDiagram_eq_error_iff
    simp only [← hhybrid, build]
    cases Script.hybridDiagram statements options <;> simp [Except.mapError]

theorem exists_housed_of_build {view : View} {statements : List Statement} {options : Options}
    {fault : View.Fault} (h : view.build statements options = .error fault) :
  ∃ n ∈ view.housed statements, n.drawFault? (view.catalog? options) = some fault
  := List.exists_of_findSome?_eq_some (build_eq_error_iff.mp h)

end View

/-! ### Names that tell where relations live -/

namespace Node

/-- The choice that is made in a catalog for a relation. -/
def choice? (catalog : Option Catalog) (n : Node) : Option Catalog.Ambiguity :=
  catalog.bind fun c => c.ambiguity? n.label n.qualifiedName

end Node

namespace View

/-- A query of a single table that has a name but no schema. -/
def named (name : String) : List Statement :=
  [{ type := "select"
     nodes := [{ id := "t", kind := .table, label := "t", qualifiedName := some name }] }]

end View

end Lineage
