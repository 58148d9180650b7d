import Lineage.Proofs.Together

/-!
# Columns are shown once

Without a catalog, the boxes of a statement share its columns out among them: no column is shown
twice. A column that an ownership edge gives an owner is in the box of the relation that the first
such edge leaves. The other columns are in the box of the output, or not shown at all if the
statement changes data and writes to a stored relation.
-/

namespace Lineage

namespace Statement

/-- The ids of the columns of a statement. -/
def columnIds (s : Statement) : List String :=
  (s.nodes.filter (·.kind = .column)).map Node.id

/-- Whether an edge gives a column an owner: it joins a relation of the statement to a column of the
statement. -/
def givesOwner (s : Statement) (e : Edge) : Bool :=
  e.kind = .ownership && s.nodes.any (fun n => n.kind.isRelation && n.id = e.source)
    && s.columnIds.contains e.target

/-- The first edge that gives a column an owner. -/
def owningEdge? (s : Statement) (column : String) : Option Edge :=
  s.edges.find? fun e => s.givesOwner e && e.target = column

theorem of_owningEdge? {s : Statement} {column : String} {e : Edge}
    (h : s.owningEdge? column = some e) :
  s.givesOwner e = true ∧ e.target = column
  := by
  have hfound := List.find?_some (p := fun e => s.givesOwner e && e.target = column) h
  simpa using hfound

/-- What has an owner is a column of the statement. -/
theorem mem_columnIds_of_owningEdge? {s : Statement} {column : String}
    (h : (s.owningEdge? column).isSome = true) :
  column ∈ s.columnIds
  := by
  obtain ⟨e, he⟩ := Option.isSome_iff_exists.mp h
  obtain ⟨hgives, rfl⟩ := of_owningEdge? he
  simpa using (Bool.and_eq_true_iff.mp hgives).2

end Statement

/-! ### Owners -/

namespace Ownership

variable {s : Statement}

theorem mem_columnIds {id : String} :
  id ∈ s.columnIds ↔ id ∈ (ofStatement s).columns.map Node.id
  := by
  rw [← has_iff, has_columns_iff]
  simp [Statement.columnIds, and_assoc]

theorem ownedBy_eq (e : Edge) :
  ownedBy (ofStatement s).relations (ofStatement s).columns e
    = if s.givesOwner e then some (e.target, e.source) else none
  := by
  have hrelation : has (ofStatement s).relations e.source
      = s.nodes.any fun n => n.kind.isRelation && n.id = e.source := by
    rw [Bool.eq_iff_iff, has_relations_iff]
    simp
  have hcolumn : has (ofStatement s).columns e.target = s.columnIds.contains e.target := by
    rw [Bool.eq_iff_iff, has_iff, ← mem_columnIds, List.contains_iff_mem]
  simp [ownedBy, Statement.givesOwner, hrelation, hcolumn, and_assoc]

/-- The owner of a column is listed as the first edge which gives it one says. -/
theorem find?_owners (column : String) :
  (ofStatement s).owners.find? (·.1 = column)
    = (s.owningEdge? column).map fun e => (e.target, e.source)
  := by
  have howners : (ofStatement s).owners
      = Keyed.firsts Prod.fst ((s.edges.filter s.givesOwner).map fun e => (e.target, e.source)) := by
    rw [← List.filterMap_eq_map, List.filterMap_filter]
    apply congrArg (fun f => Keyed.firsts Prod.fst (s.edges.filterMap f))
    funext e
    apply ownedBy_eq
  rw [howners, Keyed.find?_firsts, List.find?_map, List.find?_filter]
  simp [Statement.owningEdge?]

/-- A column belongs to the relation that the first edge which gives it an owner leaves. -/
theorem ownerOf?_eq (column : String) :
  (ofStatement s).ownerOf? column = (s.owningEdge? column).map Edge.source
  := by
  ext owner
  have hmem : (column, owner) ∈ (ofStatement s).owners
      ↔ (ofStatement s).owners.find? (·.1 = column) = some (column, owner) := by
    rw [Keyed.find?_eq_some_iff_mem (nodup_owners s)]
    simp
  rw [ownerOf?_eq_some_iff, hmem, find?_owners]
  cases hedge : s.owningEdge? column with
  | none => simp
  | some e =>
    obtain ⟨-, htarget⟩ := Statement.of_owningEdge? hedge
    simp [htarget]

theorem mem_unowned {column : String} :
  column ∈ (ofStatement s).unowned.map Node.id
    ↔ column ∈ s.columnIds ∧ s.owningEdge? column = none
  := by
  have hnone : ∀ c : Node, ((ofStatement s).ownerOf? c.id).isNone = true
      ↔ s.owningEdge? c.id = none := by
    intro c
    rw [Option.isNone_iff_eq_none, ownerOf?_eq, Option.map_eq_none_iff]
  rw [mem_columnIds]
  simp only [unowned, List.mem_map, List.mem_filter, hnone]
  constructor
  · rintro ⟨c, ⟨hc, hedge⟩, rfl⟩
    use ⟨c, hc, rfl⟩
  · rintro ⟨⟨c, hc, rfl⟩, hedge⟩
    use c, ⟨hc, hedge⟩

end Ownership

/-! ### Boxes -/

namespace Placement

/-- The columns in the boxes: those of the relations, and those of the output. -/
theorem flatMap_handles_boxes {p : Placement} {options : Options} (hcatalog : options.catalog = none)
    {bs : List Box} (h : p.boxes options = .ok bs) :
  bs.flatMap Box.handles
    = p.drawOrder.flatMap (fun n => (p.ownership.owned n.id).map Node.id) ++ p.orphans.map Node.id
  := by
  obtain ⟨relations, hrelations, rfl⟩ := boxes_eq_ok_iff.mp h
  have hhandles : relations.map Box.handles
      = p.drawOrder.map fun n => (p.ownership.owned n.id).map Node.id := by
    apply map_eq_map_of_mapM _ hrelations
    intro n b hbox
    obtain ⟨shown, hshown, home, -, rfl⟩ := box_eq_ok_iff.mp hbox
    apply handles_relationBox hcatalog hshown
  have houtput : (if p.orphans.isEmpty then [] else [p.outputBox options]).flatMap Box.handles
      = p.orphans.map Node.id := by
    by_cases horphans : p.orphans = []
    · simp [horphans]
    · simp [horphans, handles_outputBox]
  rw [List.flatMap_append, houtput, List.flatMap_def, hhandles, ← List.flatMap_def]

variable {s : Statement}

/-- The columns of the output are all that have no owner, or none. -/
theorem orphans_eq (s : Statement) :
  (ofStatement s).orphans = (ofStatement s).ownership.unowned ∨ (ofStatement s).orphans = []
  := by
  simp only [ofStatement, Statement.orphans]
  split
  · apply Or.inr rfl
  · apply Or.inl rfl

theorem nodup_orphans (s : Statement) : ((ofStatement s).orphans.map Node.id).Nodup := by
  rcases orphans_eq s with horphans | horphans
  · rw [horphans]
    apply (Ownership.nodup_columns s).sublist (List.filter_sublist.map Node.id)
  · rw [horphans]
    apply List.nodup_nil

theorem mem_flatMap_owned {column : String} :
  column ∈ (ofStatement s).drawOrder.flatMap
      (fun n => ((ofStatement s).ownership.owned n.id).map Node.id)
    ↔ ∃ owner, (Ownership.ofStatement s).ownerOf? column = some owner
  := by
  rw [List.mem_flatMap]
  constructor
  · rintro ⟨n, -, hcolumn⟩
    use n.id, Ownership.mem_owned.mp hcolumn
  · rintro ⟨owner, howner⟩
    have hrelation := Ownership.has_of_mem_owners (Ownership.ownerOf?_eq_some_iff.mp howner)
    obtain ⟨n, hn, rfl⟩ := List.mem_map.mp (Ownership.has_iff.mp hrelation.1)
    use n, mem_drawOrder.mpr hn, Ownership.mem_owned.mpr howner

variable {options : Options} {bs : List Box}

/-- No column is shown twice. -/
theorem nodup_handles_boxes (hcatalog : options.catalog = none)
    (h : (ofStatement s).boxes options = .ok bs) :
  (bs.flatMap Box.handles).Nodup
  := by
  rw [flatMap_handles_boxes hcatalog h, List.nodup_append, List.nodup_flatMap]
  refine ⟨⟨?_, ?_⟩, nodup_orphans s, ?_⟩
  · intro n _
    change (((Ownership.ofStatement s).owned n.id).map Node.id).Nodup
    rw [Ownership.map_id_owned]
    apply (Ownership.nodup_owners s).sublist (List.filter_sublist.map Prod.fst)
  · apply (List.pairwise_map.mp (nodup_drawOrder s)).imp
    intro n m hne column hn hm
    apply hne
    apply Option.some.inj
    rw [← Ownership.mem_owned.mp hn, ← Ownership.mem_owned.mp hm]
  · rintro column hcolumn _ horphan rfl
    obtain ⟨owner, howner⟩ := mem_flatMap_owned.mp hcolumn
    obtain ⟨c, hc, rfl⟩ := List.mem_map.mp horphan
    have hnone : (Ownership.ofStatement s).ownerOf? c.id = none := (mem_orphans hc).2
    rw [howner] at hnone
    cases hnone

/-- The columns that are shown are those with an owner and those of the output. -/
theorem mem_handles_boxes (hcatalog : options.catalog = none)
    (h : (ofStatement s).boxes options = .ok bs) {column : String} :
  column ∈ bs.flatMap Box.handles
    ↔ (s.owningEdge? column).isSome = true ∨ column ∈ (ofStatement s).orphans.map Node.id
  := by
  have howned : (∃ owner, (Ownership.ofStatement s).ownerOf? column = some owner)
      ↔ (s.owningEdge? column).isSome = true := by
    rw [← Option.isSome_iff_exists, Ownership.ownerOf?_eq, Option.isSome_map]
  rw [flatMap_handles_boxes hcatalog h, List.mem_append, mem_flatMap_owned, howned]

/-- Without a catalog, the view of tables fails to be drawn only as it cannot be told where some
relation lives. Otherwise no column is shown twice. All columns are shown if the output has all
that have no owner, and those that have one if the output has none. A column with an owner is in
the box of the relation that the first edge which gives it an owner leaves, and the output is drawn
if it has columns. -/
theorem tableDiagram_shows_columns_once (s : Statement) (options : Options)
    (hcatalog : options.catalog = none) :
  (∃ fault, (ofStatement s).tableDiagram options = .error (.name fault)
      ∧ ∃ n ∈ s.nodes, n.kind.isRelation = true ∧ n.home = .error fault)
    ∨ ∃ d, (ofStatement s).tableDiagram options = .ok d
      ∧ (d.boxes.flatMap Box.handles).Nodup
      ∧ ((ofStatement s).orphans = (ofStatement s).ownership.unowned
        ∨ (ofStatement s).orphans = [])
      ∧ ((ofStatement s).orphans = (ofStatement s).ownership.unowned →
        ∀ c, c ∈ d.boxes.flatMap Box.handles ↔ c ∈ s.columnIds)
      ∧ ((ofStatement s).orphans = [] →
        ∀ c, c ∈ d.boxes.flatMap Box.handles ↔ (s.owningEdge? c).isSome = true)
      ∧ (∀ c e, s.owningEdge? c = some e →
        ∃ b ∈ d.boxes, b.isOutput = false ∧ b.id = e.source ∧ c ∈ b.handles)
      ∧ ((∃ b ∈ d.boxes, b.isOutput = true) ↔ (ofStatement s).orphans ≠ [])
  := by
  unfold tableDiagram
  cases hboxes : (ofStatement s).boxes options with
  | error fault =>
    obtain ⟨cause, rfl, hhome⟩ := exists_home_fault_of_boxes hcatalog hboxes
    exact Or.inl ⟨cause, rfl, hhome⟩
  | ok boxes =>
    refine Or.inr ⟨_, rfl, nodup_handles_boxes hcatalog hboxes, orphans_eq s, ?_, ?_, ?_, ?_⟩
    · intro horphans c
      rw [mem_handles_boxes hcatalog hboxes, horphans]
      constructor
      · rintro (howned | hunowned)
        · apply Statement.mem_columnIds_of_owningEdge? howned
        · apply (Ownership.mem_unowned.mp hunowned).1
      · intro hcolumn
        cases hedge : s.owningEdge? c with
        | none => exact Or.inr (Ownership.mem_unowned.mpr ⟨hcolumn, hedge⟩)
        | some e => exact Or.inl rfl
    · intro horphans c
      simp [mem_handles_boxes hcatalog hboxes, horphans]
    · intro c e hedge
      have howner : (Ownership.ofStatement s).ownerOf? c = some e.source := by
        rw [Ownership.ownerOf?_eq, hedge]
        rfl
      obtain ⟨n, shown, home, hb, hid, hcolumn⟩ := exists_relationBox_of_owner hboxes howner
      use (ofStatement s).relationBox options n shown home, hb, isOutput_relationBox _ _ _ _ _, hid
    · rw [← any_isOutput_iff hboxes, List.any_eq_true]

/-- A statement in which the table `A` and a column have one id, and of which the column `x` is given
to `B` and then to `A`, after an edge from a script that gives it to nobody. Nobody owns `y`. -/
def contested : Statement :=
  { nodes :=
      [{ id := "A", kind := .table, label := "a" },
       { id := "B", kind := .cte, label := "b" },
       { id := "S", kind := .script, label := "s" },
       { id := "A", kind := .column, label := "a" },
       { id := "x", kind := .column, label := "x" },
       { id := "y", kind := .column, label := "y" }]
    edges :=
      [{ id := "1", source := "S", target := "x", kind := .ownership },
       { id := "2", source := "B", target := "x", kind := .ownership },
       { id := "3", source := "A", target := "x", kind := .ownership },
       { id := "4", source := "A", target := "B", kind := .ownership },
       { id := "5", source := "B", target := "A", kind := .ownership },
       { id := "6", source := "B", target := "x", kind := .ownership }] }

/-- The statement changes data, and writes to a table. -/
def contestedUpdate : Statement :=
  { contested with
    type := "UPDATE"
    nodes := { id := "C", kind := .table, label := "c" } :: contested.nodes
    edges := { id := "7", source := "y", target := "C", kind := .dataFlow } :: contested.edges }

/-- A query shows `y` in the output, and a statement that writes to a table does not show it. Both
show `x` in `B` alone. -/
theorem tableDiagram_shows_columns_once_contested :
  (∃ d, (ofStatement contested).tableDiagram {} = .ok d
    ∧ d.boxes.map (fun b => (b.id, b.handles))
      = [("A", []), ("B", ["x", "A"]), ("virtual:output", ["y"])]
    ∧ (d.boxes.flatMap Box.handles).Nodup
    ∧ (∀ c, c ∈ d.boxes.flatMap Box.handles ↔ c ∈ contested.columnIds))
  ∧ ∃ d, (ofStatement contestedUpdate).tableDiagram {} = .ok d
    ∧ d.boxes.map (fun b => (b.id, b.handles)) = [("C", []), ("A", []), ("B", ["x", "A"])]
    ∧ ∀ c, c ∈ d.boxes.flatMap Box.handles ↔ (contestedUpdate.owningEdge? c).isSome = true
  := by
  constructor
  · obtain ⟨_, herror, -⟩ | ⟨d, hd, hnodup, -, hall, -⟩ :=
      tableDiagram_shows_columns_once contested {} rfl
    · cases herror
    · use d, hd
      constructor
      · cases hd
        rfl
      · use hnodup, hall (by decide)
  · obtain ⟨_, herror, -⟩ | ⟨d, hd, -, -, -, howned, -⟩ :=
      tableDiagram_shows_columns_once contestedUpdate {} rfl
    · cases herror
    · use d, hd
      constructor
      · cases hd
        rfl
      · use howned (by decide)

end Placement

end Lineage
