import Lineage.Text.Filled

/-!
# Statements

The lineage of an SQL statement: the relations, columns and other nodes that it mentions,
and the edges between them. Nodes and edges refer to each other by id; nothing keeps an id
from being used twice or from naming nothing.
-/

namespace Lineage

/-- What a node stands for. -/
inductive NodeKind where
  | table
  | cte
  | view
  | column
  | script
  | output
  deriving DecidableEq, Repr, Inhabited

/-- The names of the kinds of nodes. -/
def NodeKind.names : List (String × NodeKind) :=
  [("table", table), ("cte", cte), ("view", view), ("column", column), ("script", script),
   ("output", output)]

/-- The name of a kind of nodes. -/
def NodeKind.name : NodeKind → String
  | table => "table"
  | cte => "cte"
  | view => "view"
  | column => "column"
  | script => "script"
  | output => "output"

/-- Whether nodes of a kind can own columns. -/
def NodeKind.isRelation : NodeKind → Bool
  | table => true
  | cte => true
  | view => true
  | _ => false

/-- Whether nodes of a kind are stored: relations that live in a schema of a database. -/
def NodeKind.isStored : NodeKind → Bool
  | table => true
  | view => true
  | _ => false

/-- What an edge says of its two nodes. -/
inductive EdgeKind where
  | ownership
  | dataFlow
  | derivation
  | joinDependency
  deriving DecidableEq, Repr, Inhabited

/-- The names of the kinds of edges. -/
def EdgeKind.names : List (String × EdgeKind) :=
  [("ownership", ownership), ("data_flow", dataFlow), ("derivation", derivation),
   ("join_dependency", joinDependency)]

/-- The name of a kind of edges. -/
def EdgeKind.name : EdgeKind → String
  | ownership => "ownership"
  | dataFlow => "data_flow"
  | derivation => "derivation"
  | joinDependency => "join_dependency"

/-- Whether edges of a kind move data. -/
def EdgeKind.isFlow : EdgeKind → Bool
  | dataFlow => true
  | derivation => true
  | _ => false

/-- A node of a statement. -/
structure Node where
  id : String
  kind : NodeKind
  /-- The short name. -/
  label : String
  qualifiedName : Option String := none
  schemaName : Option String := none
  database : Option String := none
  /-- The expression of a computed column. -/
  expression : Option String := none
  joinType : Option String := none
  joinCondition : Option String := none
  /-- Whether the statement creates the relation. -/
  isCreated : Bool := false
  statementIndex : Option Int := none
  /-- The script that the node was found in. -/
  sourceName : Option String := none
  deriving DecidableEq, Repr, Inhabited

/-- Whether a node takes part in a join. -/
def Node.hasJoin (n : Node) : Bool :=
  Text.isFilled n.joinType || Text.isFilled n.joinCondition

/-- The name under which scripts share a relation. -/
def Node.sharedName (n : Node) : String :=
  (Text.filled n.qualifiedName).getD n.label

/-- An edge from one node of a statement to another. -/
structure Edge where
  id : String
  source : String
  target : String
  kind : EdgeKind
  expression : Option String := none
  operation : Option String := none
  joinType : Option String := none
  joinCondition : Option String := none
  deriving DecidableEq, Repr, Inhabited

/-- The lineage of a statement. -/
structure Statement where
  index : Int := 0
  type : String := "SELECT"
  /-- The script that the statement was found in. -/
  sourceName : Option String := none
  nodes : List Node := []
  edges : List Edge := []
  deriving DecidableEq, Repr, Inhabited

/-- The first node of an id. -/
def Statement.node? (s : Statement) (id : String) : Option Node :=
  s.nodes.find? (·.id = id)

/-- The statements at some positions, in their own order. Without positions all are kept. -/
def Statement.select (statements : List Statement) (positions : Option (List Int)) :
    List Statement :=
  match positions with
  | none => statements
  | some ps => (statements.zipIdx.filter fun s => ps.contains (s.2 : Int)).map (·.1)

end Lineage
