import Lineage.Keyed
import Lineage.Statement.Basic
import Lineage.Text.Case

/-!
# Merging statements

The statements of an analysis are drawn together as one. The merged statement has every
node and edge once, at the place of its first occurrence; of a node's later occurrences
only what they say of joins is kept. A single statement is merged into itself.
-/

namespace Lineage

/-- The node marked with the script of its statement, unless it names a script itself. -/
def Node.stamp (sourceName : Option String) (n : Node) : Node :=
  if Text.isFilled sourceName ∧ ¬Text.isFilled n.sourceName then
    { n with sourceName := sourceName }
  else n

/-- A node with the joins of a later occurrence of it. -/
def Node.withJoinOf (old new : Node) : Node :=
  { old with
    joinType := Text.orElse new.joinType old.joinType
    joinCondition := Text.orElse new.joinCondition old.joinCondition }

namespace Statement

/-- The nodes of a statement, marked with its script. -/
def stampedNodes (s : Statement) : List Node :=
  s.nodes.map (Node.stamp s.sourceName)

/-- The statement with its nodes marked, or nothing if they all are as they should be. -/
def stamped? (s : Statement) : Option Statement :=
  if Text.isFilled s.sourceName ∧ s.nodes.any fun n => !Text.isFilled n.sourceName then
    some { s with nodes := s.stampedNodes }
  else none

/-- The statement with its nodes marked with its script. -/
def stamped (s : Statement) : Statement :=
  s.stamped?.getD s

/-- The type that all of the statements have, in capital letters; failing that, that of a
query. -/
def commonType (statements : List Statement) : String :=
  match Keyed.distinct (statements.map fun s => Text.upper s.type) with
  | [type] => type
  | _ => "SELECT"

/-- The nodes of all statements, each id once. -/
def mergedNodes (statements : List Statement) : List Node :=
  Keyed.collect Node.id Node.withJoinOf (statements.flatMap stampedNodes)

/-- The edges of all statements, each id once. -/
def mergedEdges (statements : List Statement) : List Edge :=
  Keyed.firsts Edge.id (statements.flatMap Statement.edges)

/-- All statements as one. -/
def merge : List Statement → Statement
  | [s] => s.stamped
  | statements =>
    { index := 0
      type := commonType statements
      sourceName := none
      nodes := mergedNodes statements
      edges := mergedEdges statements }

end Statement

end Lineage
