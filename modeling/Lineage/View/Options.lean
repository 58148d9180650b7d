import Lineage.Analysis
import Lineage.Diagram.Select

/-!
# Views and their options

There are four views of an analysis: its tables, its tables with their columns, its scripts,
and its scripts with their tables. The options of a view say what is selected, searched for,
collapsed, expanded and left out.
-/

namespace Lineage

/-- The views of an analysis. -/
inductive View where
  | table
  | column
  | script
  | hybrid
  deriving DecidableEq, Repr, Inhabited

/-- The names of the views. -/
def View.names : List (String × View) :=
  [("table", table), ("column", column), ("script", script), ("hybrid", hybrid)]

/-- The name of a view. -/
def View.name : View → String
  | table => "table"
  | column => "column"
  | script => "script"
  | hybrid => "hybrid"

/-- A value that is none of the names of a kind of thing. -/
inductive Misnomer where
  | view (value : Data)
  | direction (value : Data)

/-- The report of a name that is not known. -/
def Misnomer.message : Misnomer → String
  | view value => s!"{value.literal} is not a valid ViewMode"
  | direction value => s!"{value.literal} is not a valid TraversalDirection"

/-- What stands under a value that is a name. -/
def Data.namedIn? {α : Type} (names : List (String × α)) : Data → Option α
  | .text name => names.lookup name
  | _ => none

/-- The view that a value names. -/
def View.ofData (value : Data) : Except Misnomer View :=
  (value.namedIn? View.names).elim (.error (.view value)) .ok

/-- The direction that a value names. -/
def Direction.ofData (value : Data) : Except Misnomer Direction :=
  (value.namedIn? Direction.names).elim (.error (.direction value)) .ok

/-- The options of a view. -/
structure Options where
  /-- The box that is selected. -/
  selected : Option String := none
  searchTerm : String := ""
  /-- Whether boxes are collapsed unless said otherwise. -/
  collapsedByDefault : Bool := false
  /-- The boxes for which it is said otherwise. -/
  overrides : List String := []
  /-- The tables that show all the columns that the catalog knows. -/
  expanded : List String := []
  scope : Scope := {}
  selection : Selection := {}
  /-- Whether only what is connected to the search is shown. -/
  focus : Bool := false
  catalog : Option Catalog := none
  deriving DecidableEq, Repr, Inhabited

/-- Whether a box is collapsed: the default, unless it is overridden. -/
def Options.collapses (o : Options) (id : String) : Bool :=
  o.collapsedByDefault != o.overrides.contains id

/-- The overrides with that for one box taken back, or made. -/
def toggle (overrides : List String) (id : String) : List String :=
  if overrides.contains id then overrides.filter (· ≠ id) else overrides ++ [id]

/-! ### Documents -/

/-- The document of a scope. -/
def Scope.read : Reader Scope :=
  Reader.record "NamespaceFilterState" fun m =>
    Scope.mk
      <$> m.optional (.plain "schemas") [] (Reader.set Reader.text)
      <*> m.optional (.plain "databases") [] (Reader.set Reader.text)

/-- The document of a selection. -/
def Selection.read : Reader Selection :=
  Reader.record "TableFilter" fun m =>
    Selection.mk
      <$> m.optional (.plain "selected_table_labels") [] (Reader.set Reader.text)
      <*> m.optional (.plain "direction") .both (Reader.choice Direction.names)

/-- The document of options. -/
def Options.read : Reader Options :=
  Reader.record "ViewOptions" fun m =>
    Options.mk
      <$> m.maybe (.plain "selected_node_id") Reader.text
      <*> m.optional (.plain "search_term") "" Reader.text
      <*> m.optional (.plain "default_collapsed") false Reader.bool
      <*> m.optional (.plain "collapse_overrides") [] (Reader.set Reader.text)
      <*> m.optional (.plain "expanded_table_ids") [] (Reader.set Reader.text)
      <*> m.optional (.plain "namespace") {} Scope.read
      <*> m.optional (.plain "table_filter") {} Selection.read
      <*> m.optional (.plain "focus_mode") false Reader.bool
      <*> m.maybe (.plain "resolved_schema") Catalog.read

end Lineage
