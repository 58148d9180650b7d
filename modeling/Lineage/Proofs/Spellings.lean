import Lineage.Analysis
import Lineage.Proofs.Documents

/-!
# Spellings of a statement

A statement may be written as a record in many ways. Every field goes by its name in small letters,
by the same name in camel case, or by a name that is listed for it. A field without a value may be
null or left out, and one that has its usual value may be left out. The members stand in any order,
among others that mean nothing.

`Statement.IsWritten` says which documents write a statement in such a way. All of them are read as
that statement.
-/

namespace Lineage

/-! ### Names of fields -/

/-- A name in camel case: the words between `_` joined, with capitals at the joints. -/
def camelCase (name : String) : String :=
  String.ofList (join name.toList)
where
  join : List Char → List Char
    | '_' :: c :: cs => c.toUpper :: join cs
    | c :: cs => c :: join cs
    | [] => []

/-- The names of a field, given its name in small letters and what else is listed for it. -/
def fieldNames (name : String) (listed : List String) : List String :=
  name :: camelCase name :: listed

/-! ### Ways of writing -/

/-- Ways of writing values as data: which data may stand for a value. -/
abbrev Writing (α : Type) := α → Data → Prop

namespace Writing

variable {α : Type}

/-- Every value is written as one document. -/
def exact (document : α → Data) : Writing α :=
  fun a d => d = document a

/-- A list is written item by item. -/
def items (writing : Writing α) : Writing (List α) :=
  fun as d => ∃ ds, d = .list ds ∧ List.Forall₂ writing as ds

/-- A value that may be missing is null if it is. -/
def nullable (writing : Writing α) : Writing (Option α)
  | some a, d => writing a d
  | none, d => d = .null

/-- What may stand in a field that has to be there. -/
def always (writing : Writing α) (a : α) : Option Data → Prop
  | some d => writing a d
  | none => False

/-- What may stand in a field that may be left out if it has its usual value. -/
def usually (writing : Writing α) (usual a : α) : Option Data → Prop
  | some d => writing a d
  | none => a = usual

/-- What may stand in a field that may be null or left out if it has no value. -/
def maybe (writing : Writing α) (a? : Option α) : Option Data → Prop :=
  usually writing.nullable none a?

end Writing

/-- That the members of a record write a field of some names: at most one of them has such a name,
and the field may have what stands there, or be left out if there is none. -/
def Members.Writes (ms : Members) (names : List String) (form : Option Data → Prop) : Prop :=
  match ms.filter fun m => names.contains m.1 with
  | [] => form none
  | [m] => form (some m.2)
  | _ => False

open Writing in
/-- That the members of a record write a node. -/
structure Node.WrittenIn (n : Node) (ms : Members) : Prop where
  id : ms.Writes (fieldNames "id" []) (always (exact .text) n.id)
  kind : ms.Writes (fieldNames "kind" ["type"]) (always (exact fun k => .text k.name) n.kind)
  label : ms.Writes (fieldNames "label" []) (always (exact .text) n.label)
  qualifiedName : ms.Writes (fieldNames "qualified_name" []) (maybe (exact .text) n.qualifiedName)
  schemaName : ms.Writes (fieldNames "schema_name" ["schema"]) (maybe (exact .text) n.schemaName)
  database : ms.Writes (fieldNames "database" ["catalog"]) (maybe (exact .text) n.database)
  expression : ms.Writes (fieldNames "expression" []) (maybe (exact .text) n.expression)
  joinType : ms.Writes (fieldNames "join_type" []) (maybe (exact .text) n.joinType)
  joinCondition : ms.Writes (fieldNames "join_condition" []) (maybe (exact .text) n.joinCondition)
  isCreated : ms.Writes (fieldNames "is_created" []) (usually (exact .bool) false n.isCreated)
  statementIndex : ms.Writes (fieldNames "statement_index" []) (maybe (exact .int) n.statementIndex)
  sourceName : ms.Writes (fieldNames "source_name" []) (maybe (exact .text) n.sourceName)

open Writing in
/-- That the members of a record write an edge. -/
structure Edge.WrittenIn (e : Edge) (ms : Members) : Prop where
  id : ms.Writes (fieldNames "id" []) (always (exact .text) e.id)
  source : ms.Writes (fieldNames "from_id" ["from"]) (always (exact .text) e.source)
  target : ms.Writes (fieldNames "to_id" ["to"]) (always (exact .text) e.target)
  kind : ms.Writes (fieldNames "kind" ["type"]) (always (exact fun k => .text k.name) e.kind)
  expression : ms.Writes (fieldNames "expression" []) (maybe (exact .text) e.expression)
  operation : ms.Writes (fieldNames "operation" []) (maybe (exact .text) e.operation)
  joinType : ms.Writes (fieldNames "join_type" []) (maybe (exact .text) e.joinType)
  joinCondition : ms.Writes (fieldNames "join_condition" []) (maybe (exact .text) e.joinCondition)

/-- That a document writes a node. -/
def Node.IsWritten : Writing Node :=
  fun n d => ∃ ms, d = .record ms ∧ n.WrittenIn ms

/-- That a document writes an edge. -/
def Edge.IsWritten : Writing Edge :=
  fun e d => ∃ ms, d = .record ms ∧ e.WrittenIn ms

open Writing in
/-- That the members of a record write a statement. -/
structure Statement.WrittenIn (s : Statement) (ms : Members) : Prop where
  index : ms.Writes (fieldNames "statement_index" []) (usually (exact .int) 0 s.index)
  type : ms.Writes (fieldNames "statement_type" []) (usually (exact .text) "SELECT" s.type)
  sourceName : ms.Writes (fieldNames "source_name" []) (maybe (exact .text) s.sourceName)
  nodes : ms.Writes (fieldNames "nodes" []) (usually (items Node.IsWritten) [] s.nodes)
  edges : ms.Writes (fieldNames "edges" []) (usually (items Edge.IsWritten) [] s.edges)

/-- That a document writes a statement. -/
def Statement.IsWritten : Writing Statement :=
  fun s d => ∃ ms, d = .record ms ∧ s.WrittenIn ms

/-! ### Reading what is written -/

/-- That a reader gets back every value from the data that may stand for it. -/
def Reader.Reads {α : Type} (reader : Reader α) (writing : Writing α) : Prop :=
  ∀ a d, writing a d → reader d = .valid a

namespace Reader

variable {α : Type} {reader : Reader α} {writing : Writing α}

theorem Inverts.reads {document : α → Data} (h : Inverts reader document)
    (hdocument : ∀ a, (document a).withoutNulls = document a) :
  Reads reader (.exact document)
  := by
  rintro a d rfl
  rw [← hdocument a]
  apply (h a).2

theorem reads_text : Reads text (.exact .text) := inverts_text.reads fun _ => rfl

theorem reads_int : Reads int (.exact .int) := inverts_int.reads fun _ => rfl

theorem reads_bool : Reads bool (.exact .bool) := inverts_bool.reads fun _ => rfl

theorem reads_nullable (h : Reads reader writing) (hnull : ∀ a, ¬ writing a .null) :
  Reads (nullable reader) writing.nullable
  := by
  intro a? d hd
  cases a? with
  | none =>
    obtain rfl : d = .null := hd
    rfl
  | some a =>
    have hne : d.isNull = false := by
      cases d with
      | null => exact absurd hd (hnull a)
      | _ => rfl
    rw [nullable_of_not_null hne, h a d hd, Checked.map_valid]

theorem reads_list (h : Reads reader writing) : Reads (list reader) writing.items := by
  rintro as d ⟨ds, rfl, hds⟩
  apply list_eq_valid (hds.imp h)

end Reader

namespace Members

variable {α : Type} {ms : Members} {names : List String} {spelling : Spelling}

/-- What is found of a field is how it is written, whichever of its names is preferred. -/
theorem Writes.find? {form : Option Data → Prop} (h : ms.Writes names form)
    (hnames : spelling.names ⊆ names ∧ names ⊆ spelling.names) :
  form ((ms.find? spelling).map Prod.snd)
  := by
  have hmem : ∀ m, m ∈ ms.filter (fun m => names.contains m.1) ↔ m ∈ ms ∧ m.1 ∈ names := by
    simp
  unfold Writes at h
  cases hfind : ms.find? spelling with
  | none =>
    have hnone : ms.filter (fun m => names.contains m.1) = [] := by
      apply List.eq_nil_iff_forall_not_mem.mpr
      intro m hm
      obtain ⟨hm, hname⟩ := (hmem m).mp hm
      have habsent := List.findSome?_eq_none_iff.mp hfind m.1 (hnames.2 hname)
      apply Data.member?_eq_none_iff.mp (Option.map_eq_none_iff.mp habsent) m hm rfl
    rw [hnone] at h
    exact h
  | some found =>
    obtain ⟨name, hname, hfound⟩ := List.exists_of_findSome?_eq_some hfind
    obtain ⟨d, hd, rfl⟩ := Option.map_eq_some_iff.mp hfound
    have hwritten := (hmem (name, d)).mpr ⟨Data.mem_of_member? hd, hnames.1 hname⟩
    split at h
    · next hnil =>
      rw [hnil] at hwritten
      cases hwritten
    · next m hone =>
      rw [hone, List.mem_singleton] at hwritten
      rw [← hwritten] at h
      exact h
    · cases h

variable {reader : Reader α} {writing : Writing α} (hreader : reader.Reads writing)
  (hnames : spelling.names ⊆ names ∧ names ⊆ spelling.names)

include hreader hnames

theorem required_of_writes {a : α} (h : ms.Writes names (writing.always a)) :
  ms.required spelling reader = .valid a
  := by
  have hform := h.find? hnames
  unfold required
  cases hfind : ms.find? spelling with
  | none =>
    rw [hfind] at hform
    cases hform
  | some found =>
    rw [hfind] at hform
    simp [hreader a _ hform]

theorem optional_of_writes {usual a : α} (h : ms.Writes names (writing.usually usual a)) :
  ms.optional spelling usual reader = .valid a
  := by
  have hform := h.find? hnames
  unfold optional
  cases hfind : ms.find? spelling with
  | none =>
    rw [hfind] at hform
    rw [show a = usual from hform]
  | some found =>
    rw [hfind] at hform
    simp [hreader a _ hform]

theorem maybe_of_writes (hnull : ∀ a, ¬ writing a .null) {a? : Option α}
    (h : ms.Writes names (writing.maybe a?)) :
  ms.maybe spelling reader = .valid a?
  :=
  optional_of_writes (Reader.reads_nullable hreader hnull) hnames h

omit hreader in
theorem maybeText_of_writes {t? : Option String}
    (h : ms.Writes names (Writing.maybe (.exact .text) t?)) :
  ms.maybe spelling Reader.text = .valid t?
  :=
  maybe_of_writes Reader.reads_text hnames nofun h

end Members

theorem Node.reads_isWritten : Node.read.Reads Node.IsWritten := by
  rintro n d ⟨ms, rfl, h⟩
  simp only [Node.read, Reader.record]
  rw [Members.required_of_writes Reader.reads_text (by decide) h.id,
    Members.required_of_writes (NodeKind.inverts_name.reads fun _ => rfl) (by decide) h.kind,
    Members.required_of_writes Reader.reads_text (by decide) h.label,
    Members.maybeText_of_writes (by decide) h.qualifiedName,
    Members.maybeText_of_writes (by decide) h.schemaName,
    Members.maybeText_of_writes (by decide) h.database,
    Members.maybeText_of_writes (by decide) h.expression,
    Members.maybeText_of_writes (by decide) h.joinType,
    Members.maybeText_of_writes (by decide) h.joinCondition,
    Members.optional_of_writes Reader.reads_bool (by decide) h.isCreated,
    Members.maybe_of_writes Reader.reads_int (by decide) nofun h.statementIndex,
    Members.maybeText_of_writes (by decide) h.sourceName]
  rfl

theorem Edge.reads_isWritten : Edge.read.Reads Edge.IsWritten := by
  rintro e d ⟨ms, rfl, h⟩
  simp only [Edge.read, Reader.record]
  rw [Members.required_of_writes Reader.reads_text (by decide) h.id,
    Members.required_of_writes Reader.reads_text (by decide) h.source,
    Members.required_of_writes Reader.reads_text (by decide) h.target,
    Members.required_of_writes (EdgeKind.inverts_name.reads fun _ => rfl) (by decide) h.kind,
    Members.maybeText_of_writes (by decide) h.expression,
    Members.maybeText_of_writes (by decide) h.operation,
    Members.maybeText_of_writes (by decide) h.joinType,
    Members.maybeText_of_writes (by decide) h.joinCondition]
  rfl

/-- However a statement is written, it is read as it is. -/
theorem Statement.read_of_isWritten {s : Statement} {d : Data} (h : s.IsWritten d) :
  Statement.read d = .valid s
  := by
  obtain ⟨ms, rfl, h⟩ := h
  simp only [Statement.read, Reader.record]
  rw [Members.optional_of_writes Reader.reads_int (by decide) h.index,
    Members.optional_of_writes Reader.reads_text (by decide) h.type,
    Members.maybeText_of_writes (by decide) h.sourceName,
    Members.optional_of_writes (Reader.reads_list Node.reads_isWritten) (by decide) h.nodes,
    Members.optional_of_writes (Reader.reads_list Edge.reads_isWritten) (by decide) h.edges]
  rfl

/-- A statement with a view that it creates from itself. -/
def recursiveView : Statement where
  index := 2
  nodes := [
    { id := "v", kind := .view, label := "V", schemaName := some "s", database := some "db",
      isCreated := true }]
  edges := [{ id := "e", source := "v", target := "v", kind := .dataFlow, joinType := some "LEFT" }]

/-- A document of `recursiveView` in mixed spellings. -/
def recursiveViewDocument : Data :=
  .record [
    ("comment", .text "unused"),
    ("edges", .list [.record [("from", .text "v"), ("toId", .text "v"), ("operation", .null),
      ("join_type", .text "LEFT"), ("type", .text "data_flow"), ("id", .text "e")]]),
    ("statementIndex", .int 2),
    ("source_name", .null),
    ("nodes", .list [.record [("schema", .text "s"), ("id", .text "v"), ("kind", .text "view"),
      ("catalog", .text "db"), ("is_created", .bool true), ("statementIndex", .null),
      ("label", .text "V"), ("from", .null)]])]

theorem recursiveView_isWritten : recursiveView.IsWritten recursiveViewDocument := by
  refine ⟨_, rfl, rfl, rfl, rfl, ?nodes, ?edges⟩
  case nodes =>
    refine ⟨_, rfl, .cons ⟨_, rfl, ?_⟩ .nil⟩
    constructor <;> rfl
  case edges =>
    refine ⟨_, rfl, .cons ⟨_, rfl, ?_⟩ .nil⟩
    constructor <;> rfl

theorem read_recursiveViewDocument :
  recursiveView.IsWritten recursiveViewDocument
    ∧ Statement.read recursiveViewDocument = .valid recursiveView
  :=
  ⟨recursiveView_isWritten, Statement.read_of_isWritten recursiveView_isWritten⟩

end Lineage
