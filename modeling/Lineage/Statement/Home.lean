import Lineage.QualifiedName
import Lineage.Statement.Basic

/-!
# Where a relation lives

The schema and the database of a stored relation are those that its node names. If it names
neither, they are read off the qualified name.
-/

namespace Lineage

/-- A schema and a database, either of which may be unknown. -/
structure Home where
  schema : Option String := none
  database : Option String := none
  deriving DecidableEq, Repr, Inhabited

/-- The home that a qualified name tells. -/
def Home.ofName (name : Option String) : Except QualifiedName.Fault Home :=
  match name with
  | none => .ok {}
  | some name =>
    if name.toList.contains '.' then
      (QualifiedName.split name).map fun q => { schema := q.schema, database := q.database }
    else .ok {}

/-- The home of a node. -/
def Node.home (n : Node) : Except QualifiedName.Fault Home :=
  if Text.isFilled n.schemaName || Text.isFilled n.database || !n.kind.isStored then
    .ok { schema := n.schemaName, database := n.database }
  else Home.ofName n.qualifiedName

end Lineage
