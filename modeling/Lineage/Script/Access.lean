import Lineage.Keyed
import Lineage.Statement.Basic
import Lineage.Text.Case

/-!
# What scripts read and write

A stored relation is written by a statement if data flows into it or if the statement creates
it, and read if data flows out of it or if it is not written. The `Access` of a script sums up
its statements.
-/

namespace Lineage

namespace Statement

/-- The stored relations of a statement. -/
def stored (s : Statement) : List Node :=
  s.nodes.filter (·.kind.isStored)

/-- The types of statements that create a relation, each with the kind of the relation. -/
def createTypes : List (String × NodeKind) :=
  [("CREATE_TABLE", .table), ("CREATE_TABLE_AS", .table), ("CREATE_VIEW", .view)]

/-- The edges along which data flows. -/
def dataFlows (s : Statement) : List Edge :=
  s.edges.filter (·.kind = .dataFlow)

/-- The stored relations that data flows into. -/
def flowTargets (s : Statement) : List String :=
  (s.dataFlows.map Edge.target).filter fun id => s.stored.any (·.id = id)

/-- The id of the only node of a list. -/
def onlyId? : List Node → Option String
  | [n] => some n.id
  | _ => none

/-- The relations that a statement which creates a relation of some kind is taken to create:
those that data flows into, or else the only one, or else the only one of the kind. -/
def targets (s : Statement) (kind : NodeKind) : List String :=
  if s.flowTargets.isEmpty then
    ((onlyId? s.stored).or (onlyId? (s.stored.filter (·.kind = kind)))).toList
  else s.flowTargets

/-- The relations that a statement creates. -/
def created (s : Statement) : List String :=
  (s.nodes.filter (·.isCreated)).map Node.id ++
    (createTypes.lookup (Text.upper s.type)).elim [] s.targets

/-- The use that a statement makes of a stored relation. -/
structure Use where
  node : Node
  isWritten : Bool
  isRead : Bool
  deriving DecidableEq, Repr

/-- Whether a statement writes the relation of an id. -/
def writes (s : Statement) (id : String) : Bool :=
  s.dataFlows.any (·.target = id) || s.created.contains id

/-- Whether a statement reads the relation of an id. -/
def reads (s : Statement) (id : String) : Bool :=
  s.dataFlows.any (·.source = id) || !s.writes id

/-- The uses that a statement makes of its stored relations. -/
def uses (s : Statement) : List Use :=
  s.stored.map fun n => { node := n, isWritten := s.writes n.id, isRead := s.reads n.id }

end Statement

/-- A script: the statements that were found under one name. -/
structure Script where
  name : String
  statements : List Statement
  deriving DecidableEq, Repr

namespace Script

/-- The name of the script of statements that do not say where they were found. -/
def unknown : String := "unknown"

/-- The name of the script of a statement. -/
def nameOf (s : Statement) : String :=
  (Text.filled s.sourceName).getD unknown

/-- The scripts of some statements, in the order in which they first come. -/
def group (statements : List Statement) : List Script :=
  Keyed.collect Script.name (fun old new => ⟨old.name, old.statements ++ new.statements⟩) <|
    statements.map fun s => ⟨nameOf s, [s]⟩

/-- The uses that the statements of a script make of stored relations. -/
def uses (s : Script) : List Statement.Use :=
  s.statements.flatMap Statement.uses

/-- The relations that a script writes. -/
def written (s : Script) : List Node :=
  (s.uses.filter (·.isWritten)).map (·.node)

/-- The relations that a script reads. -/
def read (s : Script) : List Node :=
  (s.uses.filter (·.isRead)).map (·.node)

end Script

/-- The labels and the names of the relations that a script reads and writes. -/
structure Access where
  readLabels : List String
  writtenLabels : List String
  readNames : List String
  writtenNames : List String
  deriving DecidableEq, Repr

/-- The access of a script. -/
def Script.access (s : Script) : Access :=
  { readLabels := Keyed.distinct (s.read.map Node.label)
    writtenLabels := Keyed.distinct (s.written.map Node.label)
    readNames := Keyed.distinct (s.read.map Node.sharedName)
    writtenNames := Keyed.distinct (s.written.map Node.sharedName) }

end Lineage
