import Lineage.Text.Case
import Lineage.Text.Filled

/-!
# The catalog

What is known of the tables of a database besides the lineage. A relation is looked up by
its qualified name first and by its short name after that; if several tables have the short
name, the first one is taken and the choice is reported as an `Ambiguity`.
-/

namespace Lineage

/-- A column of a table of the catalog. -/
structure Catalog.Column where
  name : String
  dataType : Option String := none
  deriving DecidableEq, Repr, Inhabited

/-- A table of the catalog. -/
structure Catalog.Table where
  catalog : Option String := none
  schemaName : Option String := none
  name : String
  columns : List Catalog.Column := []
  deriving DecidableEq, Repr, Inhabited

/-- The tables that are known. -/
structure Catalog where
  tables : List Catalog.Table := []
  deriving DecidableEq, Repr, Inhabited

namespace Catalog

/-- The parts of a table's name that are there, with dots between them. -/
def Table.qualifiedName (t : Table) : String :=
  String.intercalate "." (([t.catalog, t.schemaName, some t.name].filterMap Text.filled))

/-- A short name that several tables have. -/
structure Ambiguity where
  label : String
  /-- The qualified names of the tables. -/
  candidates : List String
  /-- The qualified name of the table that was taken. -/
  chosen : String
  deriving DecidableEq, Repr

/-- The report of an ambiguity, which holds marks. -/
def Ambiguity.message (a : Ambiguity) : String :=
  let names := String.intercalate ", " a.candidates
  s!"[yellow]Warning:[/yellow] Table '{a.label}' is ambiguous in schema metadata " ++
    s!"({names}); using {a.chosen}"

/-- The table of a qualified name. -/
def named? (c : Catalog) (qualifiedName : Option String) : Option Table :=
  (Text.filled qualifiedName).bind fun name => c.tables.find? (·.qualifiedName = name)

/-- The tables of a short name. -/
def sharing (c : Catalog) (label : String) : List Table :=
  c.tables.filter (·.name = label)

/-- The table that a relation stands for. -/
def find? (c : Catalog) (label : String) (qualifiedName : Option String) : Option Table :=
  (c.named? qualifiedName).or (c.sharing label).head?

/-- The choice that was made for a relation, if there was one. -/
def ambiguity? (c : Catalog) (label : String) (qualifiedName : Option String) :
    Option Ambiguity :=
  if (c.named? qualifiedName).isSome then none
  else match c.sharing label with
    | t :: u :: more =>
      some
        { label := label
          candidates := (t :: u :: more).map Table.qualifiedName
          chosen := t.qualifiedName }
    | _ => none

/-- The columns of a table that are not among some names, letter case aside. -/
def Table.missing (t : Table) (names : List String) : List Column :=
  t.columns.filter fun c => !(names.map Text.lower).contains (Text.lower c.name)

end Catalog

end Lineage
