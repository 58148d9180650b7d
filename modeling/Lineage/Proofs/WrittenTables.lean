import Lineage.Proofs.Scripts
import Lineage.Proofs.Together

/-!
# Tables that data flows into

The views of a statement count a stored relation as written if data flows into it or into a column
that it owns. The views of scripts only look at flows into the relation itself, and at what the
statement creates. So a script shows the write of a relation exactly if a relation of that name is
created or has data flowing into itself. If all data flows into its columns, the relation is shown
as one that the script reads.
-/

namespace Lineage

namespace Statement

variable {s : Statement} {r : Node}

/-- Whether data flows into a relation: into itself, or into a column that it owns. -/
def FlowsInto (s : Statement) (r : Node) : Prop :=
  ∃ e ∈ s.dataFlows, e.target = r.id ∨ (Ownership.ofStatement s).ownerOf? e.target = some r.id

/-- Whether a relation is filled as a whole: data flows into itself, or the statement creates it. -/
def Fills (s : Statement) (r : Node) : Prop :=
  (∃ e ∈ s.dataFlows, e.target = r.id) ∨ r.id ∈ s.created

theorem writes_iff_fills : s.writes r.id = true ↔ s.Fills r := by
  simp [writes, Fills]

/-- What is not written is read. -/
theorem reads_of_not_fills (h : ¬s.Fills r) : s.reads r.id = true := by
  rw [← writes_iff_fills, Bool.not_eq_true] at h
  simp [reads, h]

/-- If ids are clear, data that flows into a stored relation makes the statement one that writes. -/
theorem writesStored_of_flowsInto (hs : s.IsClear) (hr : r ∈ s.stored) (hid : r.id ≠ "")
    (hflow : s.FlowsInto r) :
  s.writesStored (Ownership.ofStatement s) = true
  := by
  obtain ⟨hnode, hstored⟩ := List.mem_filter.mp hr
  have hrelation : r.kind.isRelation = true := by
    cases hkind : r.kind <;> simp_all [NodeKind.isStored, NodeKind.isRelation]
  have hhas := Ownership.has_relations_iff.mpr ⟨r, hnode, hrelation, rfl⟩
  obtain ⟨q, hq, hqid⟩ : ∃ q ∈ (Ownership.ofStatement s).relations, q.id = r.id :=
    List.mem_map.mp (Ownership.has_iff.mp hhas)
  have hfound : (Ownership.ofStatement s).relation? r.id = some q :=
    Ownership.relation?_eq_some_iff.mpr ⟨hq, hqid⟩
  have hqkind : q.kind = r.kind := hs.kinds q (Ownership.mem_relations hq).1 r hnode hqid
  obtain ⟨e, he, htarget⟩ := hflow
  obtain ⟨hedge, hkind⟩ : e ∈ s.edges ∧ e.kind = .dataFlow := by simpa [dataFlows] using he
  refine writesStored_iff.mpr ⟨e, hedge, by rw [hkind]; rfl, q, ?_, by rw [hqkind, hstored]⟩
  rcases htarget with htarget | howner
  · rw [htarget, hs.ownerOf?_of_relation? hfound]
    exact hfound
  · simpa [howner, hid] using hfound

end Statement

namespace Script

variable {s : Statement}

/-- A statement as a script of its own. -/
def alone (s : Statement) : Script :=
  ⟨nameOf s, [s]⟩

theorem group_singleton (s : Statement) : group [s] = [alone s] := rfl

/-- A statement writes what it fills as a whole. -/
theorem mem_written_alone {n : Node} : n ∈ (alone s).written ↔ n ∈ s.stored ∧ s.Fills n := by
  simp [written, uses, alone, Statement.uses, ← Statement.writes_iff_fills]

theorem mem_read_alone {n : Node} : n ∈ (alone s).read ↔ n ∈ s.stored ∧ s.reads n.id = true := by
  simp [read, uses, alone, Statement.uses]

theorem mem_writtenNames_alone {name : String} :
  name ∈ (alone s).access.writtenNames ↔ ∃ n ∈ s.stored, s.Fills n ∧ n.sharedName = name
  := by
  simp [access, mem_written_alone, and_assoc]

theorem mem_writtenLabels_alone {label : String} :
  label ∈ (alone s).access.writtenLabels ↔ ∃ n ∈ s.stored, s.Fills n ∧ n.label = label
  := by
  simp [access, mem_written_alone, and_assoc]

/-- What a statement does not fill as a whole it is taken to read. -/
theorem mem_read_of_not_fills {n : Node} (hn : n ∈ s.stored) (h : ¬s.Fills n) :
  n.label ∈ (alone s).access.readLabels ∧ n.sharedName ∈ (alone s).access.readNames
  := by
  have hread : n ∈ (alone s).read := mem_read_alone.mpr ⟨hn, Statement.reads_of_not_fills h⟩
  constructor
  · exact Keyed.mem_distinct.mpr (List.mem_map_of_mem hread)
  · exact Keyed.mem_distinct.mpr (List.mem_map_of_mem hread)

/-! ### Views of a single statement -/

theorem mem_written_pairs_alone {options : Options} {d : Diagram}
    (h : hybridDiagram [s] options = .ok d) {name : String} :
  (boxId (nameOf s), tableId name) ∈ d.pairs ↔ name ∈ (alone s).access.writtenNames
  := by
  rw [Diagram.pairs, links_hybridDiagram h, group_singleton, mem_written_pairs]
  simp [alone]

theorem mem_read_pairs_alone {options : Options} {d : Diagram}
    (h : hybridDiagram [s] options = .ok d) {name : String} :
  (tableId name, boxId (nameOf s)) ∈ d.pairs ↔ name ∈ (alone s).access.readNames
  := by
  rw [Diagram.pairs, links_hybridDiagram h, group_singleton, mem_read_pairs]
  simp [alone]

end Script

namespace View

/-- Data that flows into a stored relation or its columns is a write to the views of the statement,
if ids are clear. The script is taken to write the relation exactly if it fills a relation of that
name as a whole, and to read it if it does not fill it. This is what the view of scripts lists and
what the hybrid view draws. -/
theorem flow_shown_iff {s : Statement} {r : Node} (hr : r ∈ s.stored) (hflow : s.FlowsInto r)
    (options : Options) :
  (s.IsClear → r.id ≠ "" → s.writesStored (Ownership.ofStatement s) = true)
  ∧ (r.sharedName ∈ (Script.alone s).access.writtenNames
    ↔ ∃ n ∈ s.stored, s.Fills n ∧ n.sharedName = r.sharedName)
  ∧ (¬s.Fills r → r.sharedName ∈ (Script.alone s).access.readNames)
  ∧ (∃ scripts face, View.script.build [s] options = .ok scripts
    ∧ scripts.boxes.map Box.face = [.script face]
    ∧ (r.label ∈ face.tablesWritten ↔ ∃ n ∈ s.stored, s.Fills n ∧ n.label = r.label)
    ∧ (¬s.Fills r → r.label ∈ face.tablesRead))
  ∧ ((∃ fault, View.hybrid.build [s] options = .error (.name fault)
      ∧ ∃ n ∈ s.stored, n.home = .error fault)
    ∨ ∃ hybrid, View.hybrid.build [s] options = .ok hybrid
      ∧ ((Script.boxId (Script.nameOf s), Script.tableId r.sharedName) ∈ hybrid.pairs
        ↔ ∃ n ∈ s.stored, s.Fills n ∧ n.sharedName = r.sharedName)
      ∧ (¬s.Fills r →
        (Script.tableId r.sharedName, Script.boxId (Script.nameOf s)) ∈ hybrid.pairs))
  := by
  refine ⟨?_, Script.mem_writtenNames_alone, ?_, ?_, ?_⟩
  · intro hs hid
    exact Statement.writesStored_of_flowsInto hs hr hid hflow
  · intro hfills
    exact (Script.mem_read_of_not_fills hr hfills).2
  · refine ⟨_, _, rfl, rfl, Script.mem_writtenLabels_alone, ?_⟩
    intro hfills
    exact (Script.mem_read_of_not_fills hr hfills).1
  · cases hhybrid : Script.hybridDiagram [s] options with
    | error fault =>
      obtain ⟨t, ht, n, hn, hstored, hhome⟩ := Script.exists_fault_of_hybridDiagram hhybrid
      obtain rfl : t = s := by simpa using ht
      refine Or.inl ⟨fault, View.build_hybrid_eq_error hhybrid, n, ?_, hhome⟩
      exact List.mem_filter.mpr ⟨hn, hstored⟩
    | ok hybrid =>
      refine Or.inr ⟨hybrid, View.build_hybrid_eq_ok_iff.mpr hhybrid, ?_, ?_⟩
      · rw [Script.mem_written_pairs_alone hhybrid, Script.mem_writtenNames_alone]
      · intro hfills
        rw [Script.mem_read_pairs_alone hhybrid]
        exact (Script.mem_read_of_not_fills hr hfills).2

/-- A statement of some type that moves the column `x` of the table `src` to a column of `dst`. -/
def moving (type : String) (kind : NodeKind) : Statement :=
  { type := type
    nodes :=
      [{ id := "src", kind := .table, label := "src" },
       { id := "dst", kind := kind, label := "dst" },
       { id := "src.x", kind := .column, label := "x" },
       { id := "dst.x", kind := .column, label := "x" }]
    edges :=
      [{ id := "1", source := "src", target := "src.x", kind := .ownership },
       { id := "2", source := "dst", target := "dst.x", kind := .ownership },
       { id := "3", source := "src.x", target := "dst.x", kind := .dataFlow }] }

/-- The only view of a statement that creates a view is filled by it, although the data flows into
its column. -/
theorem flow_shown_iff_creating :
  (moving "CREATE_VIEW" .view).stored.map Node.id = ["src", "dst"]
  ∧ ∃ dst ∈ (moving "CREATE_VIEW" .view).stored, dst.id = "dst"
    ∧ (moving "CREATE_VIEW" .view).FlowsInto dst
    ∧ (∀ e ∈ (moving "CREATE_VIEW" .view).dataFlows, e.target ≠ dst.id)
    ∧ "dst" ∈ (Script.alone (moving "CREATE_VIEW" .view)).access.writtenNames
  := by
  have hflow : (moving "CREATE_VIEW" .view).FlowsInto
      { id := "dst", kind := .view, label := "dst" } :=
    ⟨{ id := "3", source := "src.x", target := "dst.x", kind := .dataFlow }, by decide,
      Or.inr (by decide)⟩
  refine ⟨by decide, _, by decide, rfl, hflow, by decide, ?_⟩
  obtain ⟨-, hwritten, -⟩ := flow_shown_iff (by decide) hflow {}
  apply hwritten.mpr
  exact ⟨_, by decide, Or.inr (by decide), rfl⟩

/-- An insertion into a column of a table is a write to the views of the statement, but its script
is shown to read the table. -/
theorem flow_into_column_not_shown :
  (∃ dst ∈ (moving "INSERT" .table).stored, dst.sharedName = "dst"
    ∧ (moving "INSERT" .table).FlowsInto dst)
  ∧ (moving "INSERT" .table).writesStored (Ownership.ofStatement (moving "INSERT" .table)) = true
  ∧ (Script.alone (moving "INSERT" .table)).access.writtenNames = []
  ∧ (Script.alone (moving "INSERT" .table)).access.readNames = ["src", "dst"]
  ∧ (View.hybrid.build [moving "INSERT" .table] {}).map Diagram.pairs
    = .ok [("table:src", "script:unknown"), ("table:dst", "script:unknown")]
  := by
  refine ⟨⟨{ id := "dst", kind := .table, label := "dst" }, by decide, by decide, ?_⟩, by decide,
    by decide, by decide, by decide⟩
  exact ⟨{ id := "3", source := "src.x", target := "dst.x", kind := .dataFlow }, by decide,
    Or.inr (by decide)⟩

end View

end Lineage
