import Lineage.Diagram.Basic
import Lineage.Document.Field
import Lineage.Json.Writer

/-!
# Diagrams as documents

`Diagram.document` is a diagram as a record, `Diagram.save` its JSON text, in which nothing
is written for what is missing, and `Diagram.read` gets a diagram back from a record. The record of
a box does not tell whether the box shows a table or a script, so that `Face.read` has to choose.
-/

namespace Lineage

mutual

/-- A value without the members of records that are null. -/
def Data.withoutNulls : Data → Data
  | .list ds => .list (itemsWithoutNulls ds)
  | .record ms => .record (membersWithoutNulls ms)
  | d => d

/-- The items of a list, each without null members. -/
def Data.itemsWithoutNulls : List Data → List Data
  | [] => []
  | d :: ds => d.withoutNulls :: itemsWithoutNulls ds

/-- The members of a record that are not null, each without null members. -/
def Data.membersWithoutNulls : List (String × Data) → List (String × Data)
  | [] => []
  | (_, .null) :: ms => membersWithoutNulls ms
  | (name, d) :: ms => (name, d.withoutNulls) :: membersWithoutNulls ms

end

/-- A list of texts. -/
def Data.ofTexts (ts : List String) : Data :=
  .list (ts.map .text)

/-! ### Writing -/

/-- The document of a column. -/
def Column.document (c : Column) : Data :=
  .record
    [("id", .text c.id),
     ("name", .text c.name),
     ("expression", .ofText? c.expression),
     ("source_name", .ofText? c.sourceName)]

/-- The document of a table in a box. -/
def TableFace.document (f : TableFace) : Data :=
  .record
    [("label", .text f.label),
     ("node_type", .text f.shape.name),
     ("columns", .list (f.columns.map Column.document)),
     ("is_selected", .bool f.isSelected),
     ("is_highlighted", .bool f.isHighlighted),
     ("is_collapsed", .bool f.isCollapsed),
     ("is_base_table", .bool f.isBaseTable),
     ("is_recursive", .bool f.isRecursive),
     ("hidden_column_count", .int f.hiddenColumns),
     ("qualified_name", .ofText? f.qualifiedName),
     ("schema_name", .ofText? f.schemaName),
     ("database", .ofText? f.database),
     ("join_type", .ofText? f.joinType),
     ("join_condition", .ofText? f.joinCondition),
     ("source_name", .ofText? f.sourceName)]

/-- The document of a script in a box. -/
def ScriptFace.document (f : ScriptFace) : Data :=
  .record
    [("label", .text f.label),
     ("source_name", .text f.sourceName),
     ("tables_read", .ofTexts f.tablesRead),
     ("tables_written", .ofTexts f.tablesWritten),
     ("statement_count", .int f.statementCount),
     ("is_selected", .bool f.isSelected),
     ("is_highlighted", .bool f.isHighlighted)]

/-- The document of what a box shows. -/
def Face.document : Face → Data
  | table face => face.document
  | script face => face.document

/-- The document of a box. -/
def Box.document (b : Box) : Data :=
  .record [("id", .text b.id), ("type", .text b.kind.name), ("data", b.face.document)]

/-- The document of what a link stands for. -/
def Flow.document (f : Flow) : Data :=
  .record
    [("kind", .text f.kind.name),
     ("expression", .ofText? f.expression),
     ("source_column", .ofText? f.sourceColumn),
     ("target_column", .ofText? f.targetColumn),
     ("is_derived", .bool f.isDerived),
     ("join_type", .ofText? f.joinType),
     ("join_condition", .ofText? f.joinCondition)]

/-- The document of a link. -/
def Link.document (l : Link) : Data :=
  .record
    [("id", .text l.id),
     ("source", .text l.source),
     ("target", .text l.target),
     ("source_handle", .ofText? l.sourceHandle),
     ("target_handle", .ofText? l.targetHandle),
     ("label", .ofText? l.label),
     ("data", l.flow.elim .null Flow.document)]

/-- The document of a diagram. -/
def Diagram.document (d : Diagram) : Data :=
  .record
    [("nodes", .list (d.boxes.map Box.document)), ("edges", .list (d.links.map Link.document))]

/-- The JSON text of a diagram. -/
def Diagram.save (d : Diagram) : String :=
  Json.write .indented d.document.withoutNulls

/-! ### Reading -/

/-- A column from its document. -/
def Column.read : Reader Column :=
  Reader.record "ColumnInfo" fun m =>
    Column.mk
      <$> m.required (.plain "id") Reader.text
      <*> m.required (.plain "name") Reader.text
      <*> m.maybe (.plain "expression") Reader.text
      <*> m.maybe (.plain "source_name") Reader.text

/-- The title of the documents of tables in boxes. -/
def TableFace.title : String := "TableNodeData"

/-- A table in a box from its document. -/
def TableFace.read : Reader TableFace :=
  Reader.record title fun m =>
    TableFace.mk
      <$> m.required (.plain "label") Reader.text
      <*> m.required (.plain "node_type") (Reader.word TableShape.names)
      <*> m.optional (.plain "columns") [] (Reader.list Column.read)
      <*> m.optional (.plain "is_selected") false Reader.bool
      <*> m.optional (.plain "is_highlighted") false Reader.bool
      <*> m.optional (.plain "is_collapsed") false Reader.bool
      <*> m.optional (.plain "is_base_table") false Reader.bool
      <*> m.optional (.plain "is_recursive") false Reader.bool
      <*> m.optional (.plain "hidden_column_count") 0 Reader.int
      <*> m.maybe (.plain "qualified_name") Reader.text
      <*> m.maybe (.plain "schema_name") Reader.text
      <*> m.maybe (.plain "database") Reader.text
      <*> m.maybe (.plain "join_type") Reader.text
      <*> m.maybe (.plain "join_condition") Reader.text
      <*> m.maybe (.plain "source_name") Reader.text

/-- The title of the documents of scripts in boxes. -/
def ScriptFace.title : String := "ScriptNodeData"

/-- A script in a box from its document. -/
def ScriptFace.read : Reader ScriptFace :=
  Reader.record title fun m =>
    ScriptFace.mk
      <$> m.required (.plain "label") Reader.text
      <*> m.required (.plain "source_name") Reader.text
      <*> m.optional (.plain "tables_read") [] (Reader.list Reader.text)
      <*> m.optional (.plain "tables_written") [] (Reader.list Reader.text)
      <*> m.optional (.plain "statement_count") 0 Reader.int
      <*> m.optional (.plain "is_selected") false Reader.bool
      <*> m.optional (.plain "is_highlighted") false Reader.bool

/-- The fields of a column. -/
def Column.fieldNames : List String :=
  ["id", "name", "expression", "source_name"]

/-- The fields of a table in a box. -/
def TableFace.fieldNames : List String :=
  ["label", "node_type", "columns", "is_selected", "is_highlighted", "is_collapsed",
    "is_base_table", "is_recursive", "hidden_column_count", "qualified_name", "schema_name",
    "database", "join_type", "join_condition", "source_name"]

/-- The fields of a script in a box. -/
def ScriptFace.fieldNames : List String :=
  ["label", "source_name", "tables_read", "tables_written", "statement_count", "is_selected",
    "is_highlighted"]

/-- The number of fields of the given names that a document sets. -/
def Data.fieldsSet (names : List String) (d : Data) : Nat :=
  names.countP fun name => (d.get? name).isSome

/-- The number of fields that the document of a table in a box sets, with those of its columns. -/
def TableFace.fieldsSet (d : Data) : Nat :=
  let columns :=
    match d.get? "columns" with
    | some (.list columns) => columns
    | _ => []
  d.fieldsSet fieldNames
    + columns.foldl (fun n column => n + column.fieldsSet Column.fieldNames) 0

/-- The number of fields that the document of a script in a box sets. -/
def ScriptFace.fieldsSet (d : Data) : Nat :=
  d.fieldsSet fieldNames

/-- What a box shows, from its document. Nothing in the document tells a table from a script. If it
can be read as either, the one counts of which it sets more fields, or else the table. -/
def Face.read : Reader Face := fun d =>
  match TableFace.read d, ScriptFace.read d with
  | .valid t, .valid s =>
    .valid (if TableFace.fieldsSet d < ScriptFace.fieldsSet d then .script s else .table t)
  | .valid t, .invalid _ => .valid (.table t)
  | .invalid _, .valid s => .valid (.script s)
  | .invalid ps, .invalid qs =>
    .invalid
      (ps.map (Problem.under (.field TableFace.title)) ++
        qs.map (Problem.under (.field ScriptFace.title)))

/-- A box from its document. -/
def Box.read : Reader Box :=
  Reader.record "RenderNode" fun m =>
    Box.mk
      <$> m.required (.plain "id") Reader.text
      <*> m.required (.plain "type") (Reader.word BoxKind.names)
      <*> m.required (.plain "data") Face.read

/-- What a link stands for, from its document. -/
def Flow.read : Reader Flow :=
  Reader.record "EdgeData" fun m =>
    Flow.mk
      <$> m.required (.plain "kind") (Reader.choice EdgeKind.names)
      <*> m.maybe (.plain "expression") Reader.text
      <*> m.maybe (.plain "source_column") Reader.text
      <*> m.maybe (.plain "target_column") Reader.text
      <*> m.optional (.plain "is_derived") false Reader.bool
      <*> m.maybe (.plain "join_type") Reader.text
      <*> m.maybe (.plain "join_condition") Reader.text

/-- A link from its document. -/
def Link.read : Reader Link :=
  Reader.record "RenderEdge" fun m =>
    Link.mk
      <$> m.required (.plain "id") Reader.text
      <*> m.required (.plain "source") Reader.text
      <*> m.required (.plain "target") Reader.text
      <*> m.maybe (.plain "source_handle") Reader.text
      <*> m.maybe (.plain "target_handle") Reader.text
      <*> m.maybe (.plain "label") Reader.text
      <*> m.maybe (.plain "data") Flow.read

/-- A diagram from its document. -/
def Diagram.read : Reader Diagram :=
  Reader.record "RenderGraph" fun m =>
    Diagram.mk
      <$> m.optional (.plain "nodes") [] (Reader.list Box.read)
      <*> m.optional (.plain "edges") [] (Reader.list Link.read)

end Lineage
