import Lineage.Impact.Trace

/-!
# The impact as comma-separated values

A record takes a line. The id stands in double quotes, and a double quote in it is written
twice; the other fields need no quotes.
-/

namespace Lineage

/-- How a character stands within quotes. -/
def Csv.escape (c : Char) : List Char :=
  if c = '"' then ['"', '"'] else [c]

/-- A field in quotes. -/
def Csv.quoted (field : String) : String :=
  String.ofList ('"' :: (field.toList.flatMap Csv.escape ++ ['"']))

/-- The names of the fields. -/
def Csv.header : List String :=
  ["id", "element_type", "direction", "hops"]

/-- A line of fields. -/
def Csv.line (fields : List String) : String :=
  String.intercalate "," fields ++ "\n"

/-- The fields of an element. -/
def Impacted.fields (e : Impacted) : List String :=
  [e.id, e.kind.name, e.direction.name, toString e.hops]

/-- The line of an element. -/
def Impacted.csvLine (e : Impacted) : String :=
  Csv.line [Csv.quoted e.id, e.kind.name, e.direction.name, toString e.hops]

/-- The lines of an impact, the names of the fields first. -/
def Impact.csvLines (i : Impact) : List String :=
  Csv.line Csv.header :: i.elements.map Impacted.csvLine

/-- The impact as a text of comma-separated values. -/
def Impact.csv (i : Impact) : String :=
  String.join i.csvLines

end Lineage
