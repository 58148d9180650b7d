import Lineage.Script.Access
import Lineage.Statement.Home
import Lineage.View.Boxes

/-!
# The views of scripts

In the view of scripts, a script is linked to another one if it writes a relation that the
other one reads. The hybrid view has boxes for the relations as well, and links a script to
the relations that it writes and the relations to the scripts that read them.
-/

namespace Lineage

namespace Script

/-- The box of a script. -/
def boxId (name : String) : String :=
  s!"script:{name}"

/-- The box of a relation. -/
def tableId (name : String) : String :=
  s!"table:{name}"

/-- A script as it is drawn. -/
def box (options : Options) (s : Script) : Box :=
  { id := boxId s.name
    kind := .script
    face := .script
      { label := s.name
        sourceName := s.name
        tablesRead := s.access.readLabels
        tablesWritten := s.access.writtenLabels
        statementCount := s.statements.length
        isSelected := options.selected = some (boxId s.name)
        isHighlighted := Text.finds options.searchTerm s.name } }

/-! ### Scripts -/

/-- The part of a name after its last dot. -/
def shortName (name : String) : String :=
  String.ofList (name.toList.reverse.takeWhile (· ≠ '.')).reverse

/-- The number of relations that the label of a link names. -/
def labelLimit : Nat := 3

/-- The label of a link that some relations make. -/
def sharedLabel (names : List String) : String :=
  let shown := String.intercalate ", " (names.take labelLimit)
  if names.length > labelLimit then
    let more := names.length - labelLimit
    s!"{shown} +{more} more"
  else shown

/-- The relations that one script writes and another one reads. -/
def shared (producer consumer : Script) : List String :=
  producer.access.writtenNames.filter consumer.access.readNames.contains

/-- The link from one script to another. -/
def link? (producer consumer : Script) : Option Link :=
  if producer.name = consumer.name ∨ (shared producer consumer).isEmpty then none
  else some
    { id := s!"{producer.name}->{consumer.name}"
      source := boxId producer.name
      target := boxId consumer.name
      label := some (sharedLabel ((shared producer consumer).map shortName))
      flow := some { kind := .dataFlow } }

/-- The view of scripts. -/
def diagram (statements : List Statement) (options : Options) : Diagram :=
  let scripts := group statements
  { boxes := scripts.map (box options)
    links := Keyed.firsts Link.id <|
      scripts.flatMap fun producer => scripts.filterMap (link? producer) }

/-! ### Scripts and tables -/

/-- A relation of the hybrid view. -/
structure Shared where
  name : String
  node : Node
  /-- The script that writes the relation. -/
  writer : Option String
  deriving DecidableEq, Repr

/-- A use of a relation in a script. -/
def Shared.ofUse (script : String) (u : Statement.Use) : Shared :=
  { name := u.node.sharedName
    node := u.node
    writer := if u.isWritten then some script else none }

/-- Of two uses of a relation, the last one that writes it counts, or else the first. -/
def Shared.join (old new : Shared) : Shared :=
  if new.writer.isSome then new else old

/-- The relations of some scripts. -/
def relations (scripts : List Script) : List Shared :=
  Keyed.collect Shared.name Shared.join <|
    scripts.flatMap fun s => s.uses.map (Shared.ofUse s.name)

/-- The box of a relation that lives somewhere. -/
def Shared.box (options : Options) (r : Shared) (home : Home) : Box :=
  { id := tableId r.name
    kind := .simpleTable
    face := .table
      { label := r.node.label
        shape := r.node.kind.shape
        isSelected := options.selected = some (tableId r.name)
        isHighlighted := Text.finds options.searchTerm r.node.label
        qualifiedName := some r.name
        schemaName := home.schema
        database := home.database
        sourceName := r.writer } }

/-- The link from one box of the hybrid view to another. -/
def flowLink (source target : String) : Link :=
  { id := s!"{source}->{target}"
    source := source
    target := target
    flow := some { kind := .dataFlow } }

/-- The links of a script in the hybrid view. -/
def hybridLinks (s : Script) : List Link :=
  (s.access.writtenNames.map fun name => flowLink (boxId s.name) (tableId name)) ++
    s.access.readNames.map fun name => flowLink (tableId name) (boxId s.name)

/-- The hybrid view. -/
def hybridDiagram (statements : List Statement) (options : Options) :
    Except QualifiedName.Fault Diagram := do
  let scripts := group statements
  let tables ← (relations scripts).mapM fun r => r.node.home.map (r.box options)
  return { boxes := scripts.map (box options) ++ tables, links := scripts.flatMap hybridLinks }

end Script

end Lineage
