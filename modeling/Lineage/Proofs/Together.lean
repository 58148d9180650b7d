import Lineage.Proofs.Connections
import Lineage.Proofs.Merging

/-!
# Statements drawn together

Whether a column without an owner is shown depends on the statement as a whole: it is left out if
the statement changes data and writes to a stored relation. Of statements that are drawn together,
the merged statement decides. A column that one of them shows is lost together with the others only
by this rule. Statements that change data and show no output alone have one together only if they
are of different types, for then the merged statement counts as a query, provided that they agree
on what their ids stand for.
-/

namespace Lineage

namespace Statement

/-! ### Agreement -/

/-- Whether an id stands for nodes of one kind in all of the statements. -/
def KindsAgree (statements : List Statement) : Prop :=
  ∀ n ∈ statements.flatMap Statement.nodes, ∀ m ∈ statements.flatMap Statement.nodes,
    n.id = m.id → n.kind = m.kind

instance (statements : List Statement) : Decidable (KindsAgree statements) :=
  inferInstanceAs (Decidable (∀ n ∈ _, ∀ m ∈ _, _ → _))

/-- Whether an id stands for the same in all of the statements, and a column has one owner. -/
structure Agree (statements : List Statement) : Prop where
  kinds : KindsAgree statements
  edges : ∀ e ∈ statements.flatMap Statement.edges, ∀ f ∈ statements.flatMap Statement.edges,
    e.id = f.id → e.source = f.source ∧ e.target = f.target ∧ e.kind = f.kind
  owners : ∀ e ∈ statements.flatMap Statement.edges, ∀ f ∈ statements.flatMap Statement.edges,
    e.kind = .ownership → f.kind = .ownership → e.target = f.target → e.source = f.source

/-- Whether an id stands for nodes of one kind in the statement, and a column has one owner. -/
structure IsClear (s : Statement) : Prop where
  kinds : ∀ n ∈ s.nodes, ∀ m ∈ s.nodes, n.id = m.id → n.kind = m.kind
  owners : ∀ e ∈ s.edges, ∀ f ∈ s.edges,
    e.kind = .ownership → f.kind = .ownership → e.target = f.target → e.source = f.source

/-- Whether the nodes and edges of a statement are found in another one. -/
structure Embeds (s t : Statement) : Prop where
  nodes : ∀ n ∈ s.nodes, ∃ m ∈ t.nodes, m.id = n.id ∧ m.kind = n.kind
  edges : ∀ e ∈ s.edges, ∃ f ∈ t.edges,
    f.source = e.source ∧ f.target = e.target ∧ f.kind = e.kind

variable {statements : List Statement} {s t : Statement}

/-- If the kinds agree, every node is found in the merged statement. -/
theorem KindsAgree.exists_node (h : KindsAgree statements) {n : Node}
    (hn : n ∈ statements.flatMap Statement.nodes) :
  ∃ m ∈ (merge statements).nodes, m.id = n.id ∧ m.kind = n.kind
  := by
  obtain ⟨m, hm, hid⟩ := exists_node_merge hn
  obtain ⟨k, hk, hkid, hkind⟩ := exists_node_of_mem_merge hm
  refine ⟨m, hm, hid, ?_⟩
  rw [← hkind]
  exact h k hk n hn (hkid.trans hid)

/-- The merged statement has the nodes of each statement as that one has them when it is merged
alone. -/
theorem KindsAgree.exists_node_of_alone (h : KindsAgree statements) (hs : s ∈ statements)
    {n : Node} (hn : n ∈ (merge [s]).nodes) :
  ∃ m ∈ (merge statements).nodes, m.id = n.id ∧ m.kind = n.kind
  := by
  obtain ⟨k, hk, hid, hkind⟩ := exists_node_of_mem_merge hn
  rw [← hid, ← hkind]
  apply h.exists_node
  exact List.mem_flatMap.mpr ⟨s, hs, by simpa using hk⟩

theorem Agree.isClear_merge (h : Agree statements) : (merge statements).IsClear := by
  constructor
  · intro n hn m hm hid
    obtain ⟨n', hn', hnid, hnkind⟩ := exists_node_of_mem_merge hn
    obtain ⟨m', hm', hmid, hmkind⟩ := exists_node_of_mem_merge hm
    rw [← hnkind, ← hmkind]
    apply h.kinds n' hn' m' hm'
    rw [hnid, hmid, hid]
  · intro e he f hf
    exact h.owners e (mem_edges_of_mem_merge he) f (mem_edges_of_mem_merge hf)

theorem Agree.embeds_merge (h : Agree statements) (hs : s ∈ statements) :
  (merge [s]).Embeds (merge statements)
  := by
  constructor
  · intro n hn
    exact h.kinds.exists_node_of_alone hs hn
  · intro e he
    have hmem : e ∈ statements.flatMap Statement.edges :=
      List.mem_flatMap.mpr ⟨s, hs, by simpa using mem_edges_of_mem_merge he⟩
    obtain ⟨f, hf, hid⟩ := exists_edge_merge hmem
    exact ⟨f, hf, h.edges f (mem_edges_of_mem_merge hf) e hmem hid⟩

/-! ### What a statement in which another one is embedded takes over -/

theorem writesStored_iff :
  s.writesStored (Ownership.ofStatement s) = true
    ↔ ∃ e ∈ s.edges, e.kind.isFlow = true
      ∧ ∃ r, (Ownership.ofStatement s).relation?
          ((Text.filled ((Ownership.ofStatement s).ownerOf? e.target)).getD e.target) = some r
        ∧ r.kind.isStored = true
  := by
  simp only [writesStored, List.any_eq_true, Bool.and_eq_true]
  refine exists_congr fun e => and_congr_right fun _ => and_congr_right fun _ => ?_
  split
  · next r hr => simp [hr]
  · next hnone => simp [hnone]

/-- In a clear statement, what is a relation has no owner. -/
theorem IsClear.ownerOf?_of_relation? (hs : s.IsClear) {id : String} {r : Node}
    (hr : (Ownership.ofStatement s).relation? id = some r) :
  (Ownership.ofStatement s).ownerOf? id = none
  := by
  obtain ⟨hmem, rfl⟩ := Ownership.relation?_eq_some_iff.mp hr
  obtain ⟨hnode, hrelation⟩ := Ownership.mem_relations hmem
  apply Option.eq_none_iff_forall_ne_some.mpr
  intro owner howner
  have hcolumn := (Ownership.has_of_mem_owners (Ownership.ownerOf?_eq_some_iff.mp howner)).2
  obtain ⟨c, hc, hkind, hid⟩ := Ownership.has_columns_iff.mp hcolumn
  rw [← hs.kinds c hc r hnode hid, hkind] at hrelation
  cases hrelation

namespace Embeds

variable (h : s.Embeds t)

include h

theorem exists_node {p : NodeKind → Prop} {id : String}
    (hid : ∃ n ∈ s.nodes, p n.kind ∧ n.id = id) :
  ∃ m ∈ t.nodes, p m.kind ∧ m.id = id
  := by
  obtain ⟨n, hn, hkind, rfl⟩ := hid
  obtain ⟨m, hm, hid, hkind'⟩ := h.nodes n hn
  exact ⟨m, hm, by rwa [hkind'], hid⟩

theorem has_relations {id : String}
    (hid : Ownership.has (Ownership.ofStatement s).relations id = true) :
  Ownership.has (Ownership.ofStatement t).relations id = true
  := by
  rw [Ownership.has_relations_iff] at hid ⊢
  exact h.exists_node (p := fun kind => kind.isRelation = true) hid

theorem has_columns {id : String}
    (hid : Ownership.has (Ownership.ofStatement s).columns id = true) :
  Ownership.has (Ownership.ofStatement t).columns id = true
  := by
  rw [Ownership.has_columns_iff] at hid ⊢
  exact h.exists_node (p := fun kind => kind = .column) hid

variable (ht : t.IsClear)

include ht

theorem relation? {id : String} {r : Node} (hr : (Ownership.ofStatement s).relation? id = some r) :
  ∃ q, (Ownership.ofStatement t).relation? id = some q ∧ q.kind = r.kind
  := by
  obtain ⟨hmem, rfl⟩ := Ownership.relation?_eq_some_iff.mp hr
  obtain ⟨m, hm, hid, hkind⟩ := h.nodes r (Ownership.mem_relations hmem).1
  have hrelation := h.has_relations (Ownership.has_iff.mpr (List.mem_map_of_mem hmem))
  obtain ⟨q, hq, hqid⟩ := List.mem_map.mp (Ownership.has_iff.mp hrelation)
  refine ⟨q, Ownership.relation?_eq_some_iff.mpr ⟨hq, hqid⟩, ?_⟩
  rw [← hkind]
  exact ht.kinds q (Ownership.mem_relations hq).1 m hm (hqid.trans hid.symm)

theorem ownerOf? {column owner : String}
    (howner : (Ownership.ofStatement s).ownerOf? column = some owner) :
  (Ownership.ofStatement t).ownerOf? column = some owner
  := by
  obtain ⟨e, he, hkind, rfl, rfl, hrelation, hcolumn⟩ :=
    Ownership.exists_edge_of_mem_owners (Ownership.ownerOf?_eq_some_iff.mp howner)
  obtain ⟨f, hf, hsource, htarget, hkind'⟩ := h.edges e he
  rw [hkind] at hkind'
  rw [← hsource] at hrelation ⊢
  rw [← htarget] at hcolumn ⊢
  obtain ⟨owner, howner'⟩ :=
    Ownership.exists_ownerOf? hf hkind' (h.has_relations hrelation) (h.has_columns hcolumn)
  obtain ⟨g, hg, hgkind, rfl, hgtarget, -⟩ :=
    Ownership.exists_edge_of_mem_owners (Ownership.ownerOf?_eq_some_iff.mp howner')
  rw [howner', ht.owners g hg f hf hgkind hkind' hgtarget]

/-- What is written to stays the same. -/
theorem writesStored (hs : s.writesStored (Ownership.ofStatement s) = true) :
  t.writesStored (Ownership.ofStatement t) = true
  := by
  obtain ⟨e, he, hflow, r, hr, hstored⟩ := writesStored_iff.mp hs
  obtain ⟨f, hf, -, htarget, hkind⟩ := h.edges e he
  obtain ⟨q, hq, hqkind⟩ := h.relation? ht hr
  have howner : (Ownership.ofStatement t).ownerOf? e.target
      = (Ownership.ofStatement s).ownerOf? e.target := by
    cases howner : (Ownership.ofStatement s).ownerOf? e.target with
    | some owner => exact h.ownerOf? ht howner
    | none =>
      rw [howner] at hq
      exact ht.ownerOf?_of_relation? hq
  refine writesStored_iff.mpr ⟨f, hf, by rw [hkind, hflow], q, ?_, by rw [hqkind, hstored]⟩
  rw [htarget, howner, hq]

end Embeds

/-! ### Types -/

theorem isQuery_merge (statements : List Statement) :
  (merge statements).isQuery = queryTypes.contains (commonType statements)
  := by
  rw [isQuery, upper_type_merge]

/-- Statements of different types are merged to a query. -/
theorem isQuery_merge_of_ne (hs : s ∈ statements) (ht : t ∈ statements)
    (hne : Text.upper s.type ≠ Text.upper t.type) :
  (merge statements).isQuery = true
  := by
  rw [isQuery_merge]
  rcases commonType_cases statements with hselect | htype
  · rw [hselect]
    decide
  · exact absurd ((htype s hs).trans (htype t ht).symm) hne

theorem isQuery_merge_of_forall (hs : s ∈ statements)
    (hsame : ∀ t ∈ statements, Text.upper t.type = Text.upper s.type) :
  (merge statements).isQuery = s.isQuery
  := by
  rw [isQuery_merge, commonType_of_forall (List.ne_nil_of_mem hs) hsame, isQuery]

end Statement

/-! ### Columns that are shown -/

namespace Placement

variable {s : Statement} {options : Options} {bs : List Box}

/-- A column is placed in a box if it has an owner, or if the statement only reads or writes to
nothing that is stored. -/
theorem place?_column_iff {column : String} :
  (∃ place, (ofStatement s).place? column = some place ∧ place.handle = some column)
    ↔ Ownership.has (Ownership.ofStatement s).columns column = true
      ∧ (s.isQuery = true ∨ s.writesStored (Ownership.ofStatement s) = false
        ∨ ∃ owner, (Ownership.ofStatement s).ownerOf? column = some owner)
  := by
  constructor
  · rintro ⟨place, hplace, hhandle⟩
    refine ⟨has_columns_of_place? hplace hhandle, ?_⟩
    rcases place?_cases hplace with ⟨howner, -⟩ | ⟨horphan, -⟩ | ⟨-, rfl⟩
    · exact Or.inr (Or.inr ⟨_, howner⟩)
    · obtain ⟨n, hn, -⟩ := List.mem_map.mp (Ownership.has_iff.mp horphan)
      exact (mem_orphans_iff.mp hn).2.imp_right Or.inl
    · cases hhandle
  · rintro ⟨hcolumn, hshown⟩
    cases howner : (Ownership.ofStatement s).ownerOf? column with
    | some owner =>
      refine ⟨{ box := owner, handle := some column }, ?_, rfl⟩
      simp [place?, ofStatement, howner]
    | none =>
      have horphan : Ownership.has (ofStatement s).orphans column = true := by
        obtain ⟨n, hn, rfl⟩ := List.mem_map.mp (Ownership.has_iff.mp hcolumn)
        apply Ownership.has_iff.mpr
        apply List.mem_map_of_mem
        exact mem_orphans_iff.mpr ⟨⟨hn, howner⟩, by simpa [howner] using hshown⟩
      refine ⟨{ box := (ofStatement s).outputId, handle := some column }, ?_, rfl⟩
      rw [place?, horphan]
      simp [ofStatement, howner]

/-- Without a catalog, the boxes show the columns that are placed in boxes. -/
theorem exists_box_iff (hcatalog : options.catalog = none)
    (h : (ofStatement s).boxes options = .ok bs) {column : String} :
  (∃ b ∈ bs, column ∈ b.handles)
    ↔ Ownership.has (Ownership.ofStatement s).columns column = true
      ∧ (s.isQuery = true ∨ s.writesStored (Ownership.ofStatement s) = false
        ∨ ∃ owner, (Ownership.ofStatement s).ownerOf? column = some owner)
  := by
  rw [← place?_column_iff]
  constructor
  · rintro ⟨b, hb, hcolumn⟩
    exact ⟨_, place?_of_mem_handles hcatalog h hb hcolumn, rfl⟩
  · rintro ⟨place, hplace, hhandle⟩
    obtain ⟨b, hb, -, hcolumn⟩ := exists_box_of_place? h hplace hhandle
    exact ⟨b, hb, hcolumn⟩

end Placement

namespace View

open Statement

/-- A column that a statement shows alone is shown together with other statements exactly if it has
an owner there, or if the merged statement only reads or writes to nothing that is stored. -/
theorem build_shows_together {statements : List Statement} {options : Options}
    (hcatalog : options.catalog = none) (hkinds : KindsAgree statements)
    {s : Statement} (hs : s ∈ statements)
    {alone : Diagram} (halone : View.column.build [s] options = .ok alone)
    {b : Box} (hb : b ∈ alone.boxes) {column : String} (hcolumn : column ∈ b.handles) :
  (∃ fault, View.column.build statements options = .error (.name fault)
      ∧ ∃ n ∈ (merge statements).nodes, n.kind.isRelation = true ∧ n.home = .error fault)
    ∨ ∃ together, View.column.build statements options = .ok together
      ∧ ((∃ b ∈ together.boxes, column ∈ b.handles)
        ↔ (merge statements).isQuery = true
          ∨ (merge statements).writesStored (Ownership.ofStatement (merge statements)) = false
          ∨ ∃ owner, (Ownership.ofStatement (merge statements)).ownerOf? column = some owner)
  := by
  cases hboxes : (Placement.ofStatements statements).boxes options with
  | error fault =>
    obtain ⟨cause, rfl, hhome⟩ := Placement.exists_home_fault_of_boxes hcatalog hboxes
    refine Or.inl ⟨cause, ?_, hhome⟩
    simp [build, Placement.columnDiagram, hboxes, Except.map]
  | ok bs =>
    refine Or.inr
      ⟨{ boxes := bs, links := (Placement.ofStatements statements).columnLinks },
        Placement.columnDiagram_eq_ok_iff.mpr ⟨hboxes, rfl⟩, ?_⟩
    rw [Placement.exists_box_iff hcatalog hboxes]
    apply and_iff_right
    obtain ⟨hboxes', -⟩ := Placement.columnDiagram_eq_ok_iff.mp halone
    obtain ⟨hshown, -⟩ := (Placement.exists_box_iff hcatalog hboxes').mp ⟨b, hb, hcolumn⟩
    obtain ⟨n, hn, hkind, rfl⟩ := Ownership.has_columns_iff.mp hshown
    obtain ⟨m, hm, hid, hkind'⟩ := hkinds.exists_node_of_alone hs hn
    exact Ownership.has_columns_iff.mpr ⟨m, hm, hkind'.trans hkind, hid⟩

/-- A statement that computes `x` from a column of `A` and writes it nowhere. -/
def computing : Statement :=
  { type := "INSERT"
    nodes :=
      [{ id := "A", kind := .table, label := "a" },
       { id := "A.x", kind := .column, label := "x" },
       { id := "x", kind := .column, label := "x" }]
    edges :=
      [{ id := "1", source := "A", target := "A.x", kind := .ownership },
       { id := "2", source := "A.x", target := "x", kind := .dataFlow }] }

/-- A statement that writes from `A` to `B`. -/
def copying (type : String) : Statement :=
  { type := type
    nodes :=
      [{ id := "A", kind := .table, label := "a" },
       { id := "B", kind := .table, label := "b" }]
    edges := [{ id := "3", source := "A", target := "B", kind := .dataFlow }] }

/-- Next to a statement of another type, `x` is shown as it is alone. -/
theorem build_shows_together_update :
  ∃ together, View.column.build [computing, copying "UPDATE"] {} = .ok together
    ∧ ∃ b ∈ together.boxes, "x" ∈ b.handles
  := by
  obtain ⟨_, herror, -⟩ | ⟨together, htogether, hiff⟩ :=
    build_shows_together (rfl : ({} : Options).catalog = none)
      (by decide : KindsAgree [computing, copying "UPDATE"]) (s := computing) (by decide) rfl
      (by decide : (Placement.ofStatements [computing]).outputBox {} ∈ _)
      (by decide : "x" ∈ _)
  · cases herror
  · exact ⟨together, htogether, hiff.mpr (Or.inl (by decide))⟩

/-- Next to a statement of the same type that writes to a table, `x` is lost. -/
theorem build_loses_together_insert :
  KindsAgree [computing, copying "INSERT"]
    ∧ ∃ alone together, View.column.build [computing] {} = .ok alone
      ∧ View.column.build [computing, copying "INSERT"] {} = .ok together
      ∧ (∃ b ∈ alone.boxes, "x" ∈ b.handles)
      ∧ ¬∃ b ∈ together.boxes, "x" ∈ b.handles
  := ⟨by decide, _, _, rfl, rfl, by decide, by decide⟩

end View

/-! ### The output -/

/-- Whether a box is that of the output. -/
def Box.isOutput (b : Box) : Bool :=
  b.table?.elim false fun face => face.shape = .output

namespace Placement

theorem isOutput_relationBox (p : Placement) (options : Options) (n : Node) (shown : Completed)
    (home : Home) :
  (p.relationBox options n shown home).isOutput = false
  := by
  have hshape : n.kind.shape ≠ .output := by
    cases n.kind <;> decide
  simpa [Box.isOutput, Box.table?, relationBox] using hshape

/-- The output is drawn if it has columns. -/
theorem any_isOutput_iff {p : Placement} {options : Options} {bs : List Box}
    (h : p.boxes options = .ok bs) :
  bs.any Box.isOutput = true ↔ p.orphans ≠ []
  := by
  rw [List.any_eq_true]
  constructor
  · rintro ⟨b, hb, houtput⟩
    rcases mem_boxes h hb with ⟨n, -, shown, home, -, rfl⟩ | ⟨horphans, -⟩
    · rw [isOutput_relationBox] at houtput
      cases houtput
    · exact horphans
  · intro horphans
    obtain ⟨relations, -, rfl⟩ := boxes_eq_ok_iff.mp h
    exact ⟨p.outputBox options, by simp [horphans], rfl⟩

end Placement

namespace Statement

variable {statements : List Statement}

/-- A column that is left without an owner is shown in the output already by the statement that it
comes from, if nothing that is stored is written to. -/
theorem Embeds.mem_orphans {s t : Statement} (h : s.Embeds t) (ht : t.IsClear)
    (hwrites : t.writesStored (Ownership.ofStatement t) = false)
    {c : Node} (hc : c ∈ (Ownership.ofStatement s).columns)
    (hunowned : (Ownership.ofStatement t).ownerOf? c.id = none) :
  c ∈ (Placement.ofStatement s).orphans
  := by
  refine Placement.mem_orphans_iff.mpr ⟨⟨hc, ?_⟩, Or.inr ?_⟩
  · apply Option.eq_none_iff_forall_ne_some.mpr
    intro owner howner
    rw [h.ownerOf? ht howner] at hunowned
    cases hunowned
  · rw [Bool.eq_false_iff]
    intro hs
    rw [h.writesStored ht hs] at hwrites
    cases hwrites

/-- Statements of one type that change data show no output together if each shows none alone and
they agree. -/
theorem Agree.orphans_eq_nil (hagree : Agree statements)
    (hsame : ∀ s ∈ statements, ∀ t ∈ statements, Text.upper s.type = Text.upper t.type)
    (hquery : ∀ s ∈ statements, s.isQuery = false)
    (halone : ∀ s ∈ statements, (Placement.ofStatements [s]).orphans = []) :
  (Placement.ofStatements statements).orphans = []
  := by
  apply List.eq_nil_iff_forall_not_mem.mpr
  intro n hn
  obtain ⟨⟨hcolumn, hunowned⟩, hshown⟩ := Placement.mem_orphans_iff.mp hn
  obtain ⟨m, hm, hkind, hid⟩ :=
    Ownership.has_columns_iff.mp (Ownership.has_iff.mpr (List.mem_map_of_mem hcolumn))
  -- the statement that the column comes from is not a query and has it as a column
  obtain ⟨k, hk, hkid, hkkind⟩ := exists_node_of_mem_merge hm
  obtain ⟨s, hs, hks⟩ := List.mem_flatMap.mp hk
  have hwrites :
      (merge statements).writesStored (Ownership.ofStatement (merge statements)) = false := by
    apply hshown.resolve_left
    rw [isQuery_merge_of_forall hs fun t ht => hsame t ht s hs, hquery s hs]
    decide
  have hcolumn' : Ownership.has (Ownership.ofStatement (merge [s])).columns n.id = true := by
    apply Ownership.has_columns_iff.mpr
    refine ⟨k.stamp s.sourceName, ?_, ?_, ?_⟩
    · rw [merge_singleton]
      exact List.mem_map_of_mem hks
    · rw [k.stamp_kind, hkkind, hkind]
    · rw [k.stamp_id, hkid, hid]
  obtain ⟨c, hc, hcid⟩ := List.mem_map.mp (Ownership.has_iff.mp hcolumn')
  have horphan : c ∈ (Placement.ofStatements [s]).orphans :=
    (hagree.embeds_merge hs).mem_orphans hagree.isClear_merge hwrites hc (by rwa [hcid])
  rw [halone s hs] at horphan
  cases horphan

end Statement

namespace View

open Statement

/-- Whether the view of tables of some statements has an output. -/
def drawsOutput (statements : List Statement) (options : Options) : Except View.Fault Bool :=
  (View.table.build statements options).map fun d => d.boxes.any Box.isOutput

theorem drawsOutput_eq (statements : List Statement) (options : Options) :
  drawsOutput statements options
    = ((Placement.ofStatements statements).boxes options).map fun bs => bs.any Box.isOutput
  := by
  unfold drawsOutput build Placement.tableDiagram
  cases (Placement.ofStatements statements).boxes options <;> rfl

theorem orphans_eq_nil_of_drawsOutput {statements : List Statement} {options : Options}
    (h : drawsOutput statements options = .ok false) :
  (Placement.ofStatements statements).orphans = []
  := by
  rw [drawsOutput_eq] at h
  obtain ⟨bs, hbs, hany⟩ := map_eq_ok_iff.mp h
  have hiff := Placement.any_isOutput_iff hbs
  rw [hany] at hiff
  simpa using hiff

/-- Of statements that change data and have no output alone, and that agree, the view of tables has
an output exactly if they are of different types and some column has no owner. -/
theorem drawsOutput_together {statements : List Statement} {options : Options}
    (hagree : Agree statements) (hquery : ∀ s ∈ statements, s.isQuery = false)
    (halone : ∀ s ∈ statements, drawsOutput [s] options = .ok false) :
  (∃ fault, drawsOutput statements options = .error fault
      ∧ ∃ n ∈ (merge statements).nodes, n.kind.isRelation = true
        ∧ n.drawFault? options.catalog = some fault)
    ∨ ∃ drawn, drawsOutput statements options = .ok drawn
      ∧ (drawn = true
        ↔ (∃ s ∈ statements, ∃ t ∈ statements, Text.upper s.type ≠ Text.upper t.type)
          ∧ (Ownership.ofStatement (merge statements)).unowned ≠ [])
  := by
  rw [drawsOutput_eq]
  cases hboxes : (Placement.ofStatements statements).boxes options with
  | error fault => exact Or.inl ⟨fault, rfl, Placement.exists_fault_of_boxes hboxes⟩
  | ok bs =>
    refine Or.inr ⟨bs.any Box.isOutput, rfl, ?_⟩
    rw [Placement.any_isOutput_iff hboxes]
    by_cases hmixed : ∃ s ∈ statements, ∃ t ∈ statements, Text.upper s.type ≠ Text.upper t.type
    · obtain ⟨s, hs, t, ht, hne⟩ := hmixed
      have horphans : (Placement.ofStatements statements).orphans
          = (Ownership.ofStatement (merge statements)).unowned := by
        simp [Placement.ofStatements, Placement.ofStatement, orphans, isQuery_merge_of_ne hs ht hne]
      rw [horphans, and_iff_right ⟨s, hs, t, ht, hne⟩]
    · have hsame : ∀ s ∈ statements, ∀ t ∈ statements, Text.upper s.type = Text.upper t.type := by
        simpa using hmixed
      have horphans := hagree.orphans_eq_nil hsame hquery fun s hs =>
        orphans_eq_nil_of_drawsOutput (halone s hs)
      simp [horphans, hmixed]

/-- A statement that computes a column and writes it to a table. -/
def storing (type column table edge : String) : Statement :=
  { type := type
    nodes :=
      [{ id := table, kind := .table, label := table },
       { id := column, kind := .column, label := column }]
    edges := [{ id := edge, source := column, target := table, kind := .dataFlow }] }

/-- The columns that two statements of one type write stay hidden. -/
theorem drawsOutput_together_insert :
  Agree [storing "INSERT" "x" "A" "1", storing "insert" "y" "B" "2"]
    ∧ drawsOutput [storing "INSERT" "x" "A" "1", storing "insert" "y" "B" "2"] {} = .ok false
  := by
  have hagree : Agree [storing "INSERT" "x" "A" "1", storing "insert" "y" "B" "2"] :=
    ⟨by decide, by decide, by decide⟩
  have halone : ∀ s ∈ [storing "INSERT" "x" "A" "1", storing "insert" "y" "B" "2"],
      drawsOutput [s] {} = .ok false := by
    decide
  obtain ⟨_, herror, -⟩ | ⟨drawn, hdrawn, hiff⟩ := drawsOutput_together hagree (by decide) halone
  · cases herror
  · refine ⟨hagree, ?_⟩
    have hfalse : ¬drawn = true := fun h => absurd (hiff.mp h).1 (by decide)
    rw [hdrawn, Bool.eq_false_iff.mpr hfalse]

/-- Whether statements that change data have an output together that none of them has alone. -/
def RevealsOutput (statements : List Statement) : Prop :=
  (∀ s ∈ statements, s.isQuery = false)
    ∧ (∀ s ∈ statements, drawsOutput [s] {} = .ok false)
    ∧ drawsOutput statements {} = .ok true

instance (statements : List Statement) : Decidable (RevealsOutput statements) :=
  inferInstanceAs (Decidable (_ ∧ _ ∧ _))

/-- A statement in which `A` is not stored. -/
def recasting : Statement :=
  { type := "INSERT", nodes := [{ id := "A", kind := .cte, label := "A" }] }

/-- A statement in which the edge `1` moves no data. -/
def relinking : Statement :=
  { type := "INSERT"
    nodes :=
      [{ id := "A", kind := .table, label := "A" },
       { id := "B", kind := .table, label := "B" }]
    edges := [{ id := "1", source := "B", target := "A", kind := .joinDependency }] }

/-- A statement in which `y` belongs to a relation that is not stored. -/
def borrowing : Statement :=
  { type := "INSERT"
    nodes :=
      [{ id := "B", kind := .cte, label := "B" },
       { id := "y", kind := .column, label := "y" }]
    edges := [{ id := "1", source := "B", target := "y", kind := .ownership }] }

/-- A statement that computes `x` and writes it to the column `y` of a table. -/
def filling : Statement :=
  { type := "INSERT"
    nodes :=
      [{ id := "A", kind := .table, label := "A" },
       { id := "x", kind := .column, label := "x" },
       { id := "y", kind := .column, label := "y" }]
    edges :=
      [{ id := "2", source := "A", target := "y", kind := .ownership },
       { id := "3", source := "x", target := "y", kind := .dataFlow }] }

/-- Statements of different types have an output together that none of them has alone, and so do
statements of one type that do not agree on a node, on an edge or on an owner. -/
theorem revealsOutput_of_disagreement :
  RevealsOutput [storing "INSERT" "x" "A" "1", storing "UPDATE" "y" "B" "2"]
    ∧ RevealsOutput [recasting, storing "INSERT" "x" "A" "1"]
    ∧ RevealsOutput [relinking, storing "INSERT" "x" "A" "1"]
    ∧ RevealsOutput [borrowing, filling]
  := by
  decide

end View

end Lineage
