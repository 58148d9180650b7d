import Lineage.Catalog
import Lineage.Document.Field
import Lineage.Document.Report
import Lineage.Statement.Basic

/-!
# Analyses

An analysis is a document with the lineage of a list of statements and, possibly, a
catalog. `Analysis.parse` reads it from a JSON text, where the list of statements may also
stand alone.
-/

namespace Lineage

/-- The lineage of some statements and the catalog that it was made with. -/
structure Analysis where
  statements : List Statement := []
  catalog : Option Catalog := none
  deriving DecidableEq, Repr, Inhabited

/-! ### Documents -/

/-- The document of a node. -/
def Node.read : Reader Node :=
  Reader.record "LineageNode" fun m =>
    Node.mk
      <$> m.required (.plain "id") Reader.text
      <*> m.required ⟨"kind", ["type"]⟩ (Reader.choice NodeKind.names)
      <*> m.required (.plain "label") Reader.text
      <*> m.maybe ⟨"qualifiedName", ["qualified_name"]⟩ Reader.text
      <*> m.maybe ⟨"schema_name", ["schemaName", "schema"]⟩ Reader.text
      <*> m.maybe ⟨"database", ["catalog"]⟩ Reader.text
      <*> m.maybe (.plain "expression") Reader.text
      <*> m.maybe ⟨"joinType", ["join_type"]⟩ Reader.text
      <*> m.maybe ⟨"joinCondition", ["join_condition"]⟩ Reader.text
      <*> m.optional ⟨"isCreated", ["is_created"]⟩ false Reader.bool
      <*> m.maybe ⟨"statementIndex", ["statement_index"]⟩ Reader.int
      <*> m.maybe ⟨"sourceName", ["source_name"]⟩ Reader.text

/-- The document of an edge. -/
def Edge.read : Reader Edge :=
  Reader.record "LineageEdge" fun m =>
    Edge.mk
      <$> m.required (.plain "id") Reader.text
      <*> m.required ⟨"from_id", ["fromId", "from"]⟩ Reader.text
      <*> m.required ⟨"to_id", ["toId", "to"]⟩ Reader.text
      <*> m.required ⟨"kind", ["type"]⟩ (Reader.choice EdgeKind.names)
      <*> m.maybe (.plain "expression") Reader.text
      <*> m.maybe (.plain "operation") Reader.text
      <*> m.maybe ⟨"joinType", ["join_type"]⟩ Reader.text
      <*> m.maybe ⟨"joinCondition", ["join_condition"]⟩ Reader.text

/-- The document of a statement. -/
def Statement.read : Reader Statement :=
  Reader.record "StatementLineageUnit" fun m =>
    Statement.mk
      <$> m.optional ⟨"statementIndex", ["statement_index"]⟩ 0 Reader.int
      <*> m.optional ⟨"statementType", ["statement_type"]⟩ "SELECT" Reader.text
      <*> m.maybe ⟨"sourceName", ["source_name"]⟩ Reader.text
      <*> m.optional (.plain "nodes") [] (Reader.list Node.read)
      <*> m.optional (.plain "edges") [] (Reader.list Edge.read)

/-- The document of a column of the catalog. -/
def Catalog.Column.read : Reader Catalog.Column :=
  Reader.record "ColumnSchema" fun m =>
    Catalog.Column.mk
      <$> m.required (.plain "name") Reader.text
      <*> m.maybe ⟨"dataType", ["data_type"]⟩ Reader.text

/-- The document of a table of the catalog. -/
def Catalog.Table.read : Reader Catalog.Table :=
  Reader.record "SchemaTable" fun m =>
    Catalog.Table.mk
      <$> m.maybe (.plain "catalog") Reader.text
      <*> m.maybe ⟨"schema_name", ["schemaName", "schema"]⟩ Reader.text
      <*> m.required (.plain "name") Reader.text
      <*> m.optional (.plain "columns") [] (Reader.list Catalog.Column.read)

/-- The document of a catalog. -/
def Catalog.read : Reader Catalog :=
  Reader.record "SchemaMetadata" fun m =>
    Catalog.mk <$> m.optional (.plain "tables") [] (Reader.list Catalog.Table.read)

namespace Analysis

/-- The title of the document of an analysis. -/
def title : String := "AnalysisResult"

/-- The document of an analysis. -/
def read : Reader Analysis :=
  Reader.record title fun m =>
    Analysis.mk
      <$> m.optional (.plain "statements") [] (Reader.list Statement.read)
      <*> m.maybe ⟨"resolvedSchema", ["resolved_schema"]⟩ Catalog.read

/-- A list of statements that stands alone is the list of an analysis. -/
def wrap : Data → Data
  | .list ds => .record [("statements", .list ds)]
  | d => d

/-! ### Texts -/

/-- Why a text is no analysis. -/
inductive Fault where
  /-- It is not JSON. -/
  | syntactic (message : String)
  /-- It is JSON but not the document of an analysis. -/
  | invalid (problems : List Problem)
  /-- There is no file of the name. -/
  | noFile (path : String)

/-- The report of a fault. -/
def Fault.message : Fault → String
  | syntactic message => message
  | invalid problems => s!"Invalid analysis result: {Problem.report title problems}"
  | noFile path => s!"Analysis file not found: {path}"

/-- The message for a text that is not JSON. An integer that is too long is reported
without its place. -/
def syntaxMessage (fault : Json.Fault) (s : String) : String :=
  match fault.cause with
  | .longInteger _ => fault.cause.message
  | _ => s!"Invalid analysis JSON: {fault.message s}"

/-- The analysis that a text holds. -/
def parse (s : String) : Except Fault Analysis :=
  match Json.read s with
  | .error fault => .error (.syntactic (syntaxMessage fault s))
  | .ok d =>
    match read (wrap d) with
    | .valid a => .ok a
    | .invalid problems => .error (.invalid problems)

/-- A text with every line end written as a line feed. -/
def unifyLineEnds : List Char → List Char
  | [] => []
  | '\r' :: '\n' :: cs => '\n' :: unifyLineEnds cs
  | c :: cs => (if c = '\r' then '\n' else c) :: unifyLineEnds cs

/-- The analysis in a file with the given content. -/
def parseFile (content : String) : Except Fault Analysis :=
  parse (String.ofList (unifyLineEnds content.toList))

/-- The analysis in the file at a path, of which the content is given if it exists. -/
def load (path : String) (content : Option String) : Except Fault Analysis :=
  match content with
  | none => .error (.noFile path)
  | some s => parseFile s

end Analysis

end Lineage
