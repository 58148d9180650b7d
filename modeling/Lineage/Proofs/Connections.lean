import Lineage.Proofs.Passes
import Lineage.Proofs.Placement
import Lineage.View.Render

/-!
# The pairs that are connected

The view of tables and the view of columns link the same pairs of boxes, those between which
the statement moves data or says that one is joined to the other. The view of tables draws every
pair once, and so never has more links than the view of columns. The view of columns has a link for
every edge that moves data between columns of two boxes, and a plain link for every other pair.
-/

namespace Lineage.Placement

variable {p : Placement}

/-- Whether an edge that moves data or tells of a join leads from one box to another one. -/
def Connects (p : Placement) (source target : String) : Prop :=
  source ≠ target ∧ ∃ e ∈ p.statement.edges,
    (e.kind = .dataFlow ∨ e.kind = .derivation ∨ e.kind = .joinDependency)
      ∧ (∃ handle, p.place? e.source = some ⟨source, handle⟩)
      ∧ ∃ handle, p.place? e.target = some ⟨target, handle⟩

/-- The pairs of the connections of some kinds of edges. -/
theorem mem_pairs_connections {kinds : EdgeKind → Bool} {source target : String} :
  (source, target) ∈ (p.connections kinds).map Connection.pair
    ↔ source ≠ target ∧ ∃ e ∈ p.statement.edges, kinds e.kind = true
      ∧ (∃ handle, p.place? e.source = some ⟨source, handle⟩)
      ∧ ∃ handle, p.place? e.target = some ⟨target, handle⟩
  := by
  simp only [List.mem_map, mem_connections]
  constructor
  · rintro ⟨⟨e, ⟨source, x⟩, ⟨target, y⟩⟩, ⟨he, hkind, hx, hy, hne⟩, ⟨⟩⟩
    exact ⟨hne, e, he, hkind, ⟨x, hx⟩, ⟨y, hy⟩⟩
  · rintro ⟨hne, e, he, hkind, ⟨x, hx⟩, ⟨y, hy⟩⟩
    exact ⟨⟨e, ⟨source, x⟩, ⟨target, y⟩⟩, ⟨he, hkind, hx, hy, hne⟩, rfl⟩

theorem connects_iff {source target : String} :
  p.Connects source target
    ↔ (source, target) ∈ p.flows.map Connection.pair
      ∨ (source, target) ∈ p.joins.map Connection.pair
  := by
  have hkinds : ∀ kind : EdgeKind,
      kind = .dataFlow ∨ kind = .derivation ∨ kind = .joinDependency
        ↔ kind.isFlow = true ∨ kind = .joinDependency := by
    intro kind
    cases kind <;> simp [EdgeKind.isFlow]
  rw [flows, joins, mem_pairs_connections, mem_pairs_connections, Connects]
  simp only [hkinds, decide_eq_true_eq, or_and_right, and_or_left, exists_or]

/-! ### Links of connections -/

@[simp] theorem relationLink_pair (p : Placement) (c : Connection) :
  (p.relationLink c).pair = c.pair
  := rfl

@[simp] theorem joinLink_pair (p : Placement) (c : Connection) :
  (p.joinLink c).pair = c.pair
  := rfl

@[simp] theorem columnLink_pair (p : Placement) (c : Connection) :
  (p.columnLink c).pair = c.pair
  := rfl

/-- A flow joins two columns or touches a relation. -/
theorem mem_pairs_flows {pair : String × String} :
  pair ∈ p.flows.map Connection.pair
    ↔ pair ∈ p.columnFlows.map Connection.pair ∨ pair ∈ p.relationFlows.map Connection.pair
  := by
  have hsplit : ∀ c, c ∈ p.flows ↔ c ∈ p.columnFlows ∨ c ∈ p.relationFlows := by
    intro c
    cases h : c.joinsColumns <;> simp [columnFlows, relationFlows, h]
  simp only [List.mem_map, hsplit, or_and_right, exists_or]

theorem mem_pairs_firsts {cs ds : List Connection} {pair : String × String} :
  pair ∈ (Keyed.firsts Link.pair (cs.map p.relationLink ++ ds.map p.joinLink)).map Link.pair
    ↔ pair ∈ cs.map Connection.pair ∨ pair ∈ ds.map Connection.pair
  := by
  rw [Keyed.mem_keys_firsts]
  simp

/-- The view of tables has a link for every pair that is connected. -/
theorem mem_pairs_tableLinks {source target : String} :
  (source, target) ∈ p.tableLinks.map Link.pair ↔ p.Connects source target
  := by
  rw [tableLinks, mem_pairs_firsts, connects_iff]

/-- The links of the view of columns between boxes of which no columns are connected. -/
def plainLinks (p : Placement) : List Link :=
  (Keyed.firsts Link.pair (p.relationFlows.map p.relationLink ++ p.joins.map p.joinLink)).filter
    fun l => !(p.columnFlows.map Connection.pair).contains l.pair

theorem columnLinks_eq (p : Placement) :
  p.columnLinks = p.columnFlows.map p.columnLink ++ p.plainLinks
  := rfl

theorem mem_pairs_plainLinks {pair : String × String} :
  pair ∈ p.plainLinks.map Link.pair
    ↔ (pair ∈ p.relationFlows.map Connection.pair ∨ pair ∈ p.joins.map Connection.pair)
      ∧ pair ∉ p.columnFlows.map Connection.pair
  := by
  -- whether a plain link is drawn depends on its pair only
  have hplain : ∀ ls : List Link,
      (ls.filter fun l => !(p.columnFlows.map Connection.pair).contains l.pair).map Link.pair
        = (ls.map Link.pair).filter fun pair =>
          !(p.columnFlows.map Connection.pair).contains pair := by
    intro ls
    rw [List.filter_map]
    rfl
  rw [plainLinks, hplain, List.mem_filter, mem_pairs_firsts]
  simp only [Bool.not_eq_true', List.contains_eq_mem, decide_eq_false_iff_not]

/-- No two plain links join the same boxes in the same direction. -/
theorem nodup_pairs_plainLinks (p : Placement) : (p.plainLinks.map Link.pair).Nodup :=
  (Keyed.nodup_keys_firsts _ _).sublist (List.filter_sublist.map Link.pair)

/-- The view of columns has a link for every pair that is connected. -/
theorem mem_pairs_columnLinks {source target : String} :
  (source, target) ∈ p.columnLinks.map Link.pair ↔ p.Connects source target
  := by
  have hcolumns : (p.columnFlows.map p.columnLink).map Link.pair
      = p.columnFlows.map Connection.pair := by
    simp [Function.comp_def]
  rw [columnLinks_eq, List.map_append, hcolumns, List.mem_append, mem_pairs_plainLinks,
    connects_iff, mem_pairs_flows]
  tauto

/-- The view of tables draws no pair twice. -/
theorem nodup_pairs_tableLinks (p : Placement) :
  (p.tableLinks.map Link.pair).Nodup
  := Keyed.nodup_keys_firsts _ _

theorem length_tableLinks_le (p : Placement) :
  p.tableLinks.length ≤ p.columnLinks.length
  := by
  have hsub : p.tableLinks.map Link.pair ⊆ p.columnLinks.map Link.pair := by
    intro pair h
    rw [mem_pairs_columnLinks]
    rwa [mem_pairs_tableLinks] at h
  simpa using List.Nodup.length_le_of_subset p.nodup_pairs_tableLinks hsub

/-! ### Edges between boxes -/

/-- Whether an edge moves data from a column in one box to a column in another one. -/
def LinksColumns (p : Placement) (e : Edge) (a b : String) : Prop :=
  e.kind.isFlow = true ∧ p.place? e.source = some ⟨a, some e.source⟩
    ∧ p.place? e.target = some ⟨b, some e.target⟩ ∧ a ≠ b

/-- Whether an edge leads from one box to another one and tells of a join, or moves data from or to
a relation itself. -/
def LinksBoxes (p : Placement) (e : Edge) (a b : String) : Prop :=
  ∃ x y, p.place? e.source = some ⟨a, x⟩ ∧ p.place? e.target = some ⟨b, y⟩ ∧ a ≠ b
    ∧ (e.kind = .joinDependency ∨ e.kind.isFlow = true ∧ (x = none ∨ y = none))

/-- A connection joins two columns exactly if its handles are the ends of its edge. -/
theorem joinsColumns_iff {e : Edge} {c : Connection} (h : p.connection? e = some c) :
  c.joinsColumns = true
    ↔ c = ⟨e, ⟨c.source.box, some e.source⟩, ⟨c.target.box, some e.target⟩⟩
  := by
  obtain ⟨rfl, hsource, htarget, -⟩ := connection?_eq_some_iff.mp h
  constructor
  · intro hcolumns
    obtain ⟨hx, hy⟩ := Bool.and_eq_true_iff.mp hcolumns
    obtain ⟨x, hx⟩ := Option.isSome_iff_exists.mp hx
    obtain ⟨y, hy⟩ := Option.isSome_iff_exists.mp hy
    rw [← handle_eq_of_place? hsource hx, ← handle_eq_of_place? htarget hy, ← hx, ← hy]
  · intro hc
    rw [hc]
    rfl

theorem linksColumns_iff {e : Edge} {a b : String} :
  p.LinksColumns e a b
    ↔ e.kind.isFlow = true
      ∧ p.connection? e = some ⟨e, ⟨a, some e.source⟩, ⟨b, some e.target⟩⟩
  := by
  simp [LinksColumns, connection?_eq_some_iff]

theorem exists_linksColumns_iff {e : Edge} :
  (∃ a b, p.LinksColumns e a b)
    ↔ e.kind.isFlow = true ∧ (p.connection? e).any Connection.joinsColumns = true
  := by
  simp only [linksColumns_iff]
  constructor
  · rintro ⟨a, b, hflow, hc⟩
    use hflow
    rw [hc]
    rfl
  · rintro ⟨hflow, hany⟩
    obtain ⟨c, hc, hcolumns⟩ := (Option.any_eq_true _ _).mp hany
    use c.source.box, c.target.box, hflow
    rw [hc, ← (joinsColumns_iff hc).mp hcolumns]

instance (p : Placement) (e : Edge) : Decidable (∃ a b, p.LinksColumns e a b) :=
  decidable_of_iff _ exists_linksColumns_iff.symm

/-- The connections as they are made edge by edge. -/
theorem connections_eq_filterMap (p : Placement) (kinds : EdgeKind → Bool) :
  p.connections kinds
    = p.statement.edges.filterMap fun e => if kinds e.kind then p.connection? e else none
  := by
  simp [connections, List.filterMap_filter]

/-- The edges that move data between columns of two boxes are connections, in their order. -/
theorem map_edge_columnFlows (p : Placement) :
  p.columnFlows.map Connection.edge
    = p.statement.edges.filter fun e => ∃ a b, p.LinksColumns e a b
  := by
  rw [columnFlows, flows, connections_eq_filterMap, List.filter_filterMap, List.map_filterMap,
    ← List.filterMap_eq_filter]
  congr 1
  funext e
  simp only [exists_linksColumns_iff, Option.guard]
  cases hflow : e.kind.isFlow with
  | false => simp
  | true =>
    cases hc : p.connection? e with
    | none => simp
    | some c =>
      obtain ⟨hedge, -⟩ := connection?_eq_some_iff.mp hc
      cases hcolumns : c.joinsColumns <;> simp [Option.filter, hcolumns, hedge]

theorem mem_columnFlows {c : Connection} :
  c ∈ p.columnFlows
    ↔ ∃ e ∈ p.statement.edges, ∃ a b, p.LinksColumns e a b
      ∧ c = ⟨e, ⟨a, some e.source⟩, ⟨b, some e.target⟩⟩
  := by
  rw [columnFlows, List.mem_filter, flows, connections, List.mem_filterMap]
  constructor
  · rintro ⟨⟨e, he, hc⟩, hcolumns⟩
    obtain ⟨he, hflow⟩ := List.mem_filter.mp he
    have hhandles := (joinsColumns_iff hc).mp hcolumns
    use e, he, c.source.box, c.target.box
    rw [← hhandles, linksColumns_iff, ← hhandles]
    use ⟨hflow, hc⟩
  · rintro ⟨e, he, a, b, h, rfl⟩
    obtain ⟨hflow, hc⟩ := linksColumns_iff.mp h
    use ⟨e, List.mem_filter.mpr ⟨he, hflow⟩, hc⟩
    rfl

/-- The pairs of boxes of which columns are connected. -/
theorem mem_pairs_columnFlows {a b : String} :
  (a, b) ∈ p.columnFlows.map Connection.pair ↔ ∃ e ∈ p.statement.edges, p.LinksColumns e a b
  := by
  simp only [List.mem_map, mem_columnFlows]
  constructor
  · rintro ⟨c, ⟨e, he, x, y, h, rfl⟩, ⟨⟩⟩
    use e, he
  · rintro ⟨e, he, h⟩
    use ⟨e, ⟨a, some e.source⟩, ⟨b, some e.target⟩⟩
    use ⟨e, he, a, b, h, rfl⟩
    rfl

/-- The pairs of boxes that are connected otherwise. -/
theorem exists_linksBoxes_iff {a b : String} :
  (∃ e ∈ p.statement.edges, p.LinksBoxes e a b)
    ↔ (a, b) ∈ p.relationFlows.map Connection.pair ∨ (a, b) ∈ p.joins.map Connection.pair
  := by
  rw [joins, mem_pairs_connections, List.mem_map]
  constructor
  · rintro ⟨e, he, x, y, hx, hy, hne, hjoin | ⟨hflow, hplain⟩⟩
    · right
      use hne, e, he, by simpa using hjoin, ⟨x, hx⟩, y
    · left
      use ⟨e, ⟨a, x⟩, ⟨b, y⟩⟩
      have hc : ⟨e, ⟨a, x⟩, ⟨b, y⟩⟩ ∈ p.flows := mem_connections.mpr ⟨he, hflow, hx, hy, hne⟩
      refine ⟨List.mem_filter.mpr ⟨hc, ?_⟩, rfl⟩
      rcases hplain with rfl | rfl <;> simp [Connection.joinsColumns]
  · rintro (⟨c, hc, ⟨⟩⟩ | ⟨hne, e, he, hjoin, ⟨x, hx⟩, ⟨y, hy⟩⟩)
    · obtain ⟨hc, hplain⟩ := List.mem_filter.mp hc
      obtain ⟨he, hflow, hx, hy, hne⟩ := mem_connections.mp hc
      use c.edge, he, c.source.handle, c.target.handle, hx, hy, hne
      right
      use hflow
      cases hsource : c.source.handle with
      | none => apply Or.inl rfl
      | some x =>
        right
        simpa [Connection.joinsColumns, hsource] using hplain
    · use e, he, x, y, hx, hy, hne
      left
      simpa using hjoin

/-! ### Ends of links -/

theorem handles_of_mem {cs ds : List Connection} {l : Link}
    (h : l ∈ Keyed.firsts Link.pair (cs.map p.relationLink ++ ds.map p.joinLink)) :
  l.sourceHandle = none ∧ l.targetHandle = none
  := by
  rcases List.mem_append.mp (Keyed.mem_of_mem_firsts h) with h | h
  · obtain ⟨c, -, rfl⟩ := List.mem_map.mp h
    exact ⟨rfl, rfl⟩
  · obtain ⟨c, -, rfl⟩ := List.mem_map.mp h
    exact ⟨rfl, rfl⟩

/-- The links of flows and of joins between boxes are not fixed to columns. -/
theorem not_isAnchored_of_mem {cs ds : List Connection} {l : Link}
    (h : l ∈ Keyed.firsts Link.pair (cs.map p.relationLink ++ ds.map p.joinLink)) :
  l.isAnchored = false
  := by
  obtain ⟨hsource, htarget⟩ := handles_of_mem h
  simp [Link.isAnchored_eq_false_iff, hsource, htarget]

/-- A connection of two columns is fixed to one of them: both cannot have the empty id, since
their places differ. -/
theorem columnLink_isAnchored {c : Connection} (hc : c ∈ p.columnFlows) :
  (p.columnLink c).isAnchored = true
  := by
  obtain ⟨e, -, a, b, ⟨-, hsource, htarget, hne⟩, rfl⟩ := mem_columnFlows.mp hc
  by_contra hplain
  obtain ⟨hx, hy⟩ := Link.isAnchored_eq_false_iff.mp (Bool.eq_false_iff.mpr hplain)
  have hx : e.source = "" := by simpa [columnLink, Text.filled] using hx
  have hy : e.target = "" := by simpa [columnLink, Text.filled] using hy
  rw [hx] at hsource
  rw [hy, hsource] at htarget
  apply hne (congrArg Place.box (Option.some.inj htarget))

/-- A link of the view of columns joins two columns, or it is not fixed to any. -/
theorem mem_columnLinks_cases {l : Link} (h : l ∈ p.columnLinks) :
  (∃ c ∈ p.columnFlows, l = p.columnLink c) ∨ l.isAnchored = false
  := by
  rcases List.mem_append.mp h with h | h
  · obtain ⟨c, hc, rfl⟩ := List.mem_map.mp h
    exact Or.inl ⟨c, hc, rfl⟩
  · exact Or.inr (not_isAnchored_of_mem (List.mem_filter.mp h).1)

/-- The links that are fixed to columns are those of connected columns, and the others are plain. -/
theorem filter_columnLinks (p : Placement) :
  p.columnLinks.filter Link.isAnchored = p.columnFlows.map p.columnLink
  ∧ p.columnLinks.filter (fun l => !l.isAnchored) = p.plainLinks
  := by
  have hcolumns : ∀ l ∈ p.columnFlows.map p.columnLink, l.isAnchored = true := by
    intro l hl
    obtain ⟨c, hc, rfl⟩ := List.mem_map.mp hl
    apply columnLink_isAnchored hc
  have hplain : ∀ l ∈ p.plainLinks, l.isAnchored = false := by
    intro l hl
    apply not_isAnchored_of_mem (List.mem_filter.mp hl).1
  rw [columnLinks_eq, List.filter_append, List.filter_append]
  constructor
  · rw [List.filter_eq_self.mpr hcolumns, List.filter_eq_nil_iff.mpr (by simpa using hplain),
      List.append_nil]
  · rw [List.filter_eq_nil_iff.mpr (by simpa using hcolumns),
      List.filter_eq_self.mpr (by simpa using hplain), List.nil_append]

/-- Boxes that are connected are drawn. -/
theorem draws_of_connects {s : Statement} {source target : String}
    (h : (ofStatement s).Connects source target) :
  (ofStatement s).Draws source ∧ (ofStatement s).Draws target
  := by
  obtain ⟨-, e, -, -, ⟨x, hx⟩, ⟨y, hy⟩⟩ := h
  exact ⟨draws_of_place? hx, draws_of_place? hy⟩

theorem connects_of_mem_tableLinks {l : Link} (h : l ∈ p.tableLinks) :
  p.Connects l.source l.target
  := mem_pairs_tableLinks.mp (List.mem_map_of_mem h)

theorem connects_of_mem_columnLinks {l : Link} (h : l ∈ p.columnLinks) :
  p.Connects l.source l.target
  := mem_pairs_columnLinks.mp (List.mem_map_of_mem h)

/-! ### Diagrams -/

theorem tableDiagram_eq_ok_iff {options : Options} {d : Diagram} :
  p.tableDiagram options = .ok d ↔ p.boxes options = .ok d.boxes ∧ p.tableLinks = d.links
  := by
  obtain ⟨boxes, links⟩ := d
  rw [tableDiagram, map_eq_ok_iff]
  simp

theorem columnDiagram_eq_ok_iff {options : Options} {d : Diagram} :
  p.columnDiagram options = .ok d ↔ p.boxes options = .ok d.boxes ∧ p.columnLinks = d.links
  := by
  obtain ⟨boxes, links⟩ := d
  rw [columnDiagram, map_eq_ok_iff]
  simp

/-- The two views of a statement fail alike. Otherwise they have the same boxes, and link the
pairs that the statement connects: the view of tables each of them once, with no more links
than the view of columns has. -/
theorem diagrams_link_connected (s : Statement) (options : Options) :
  (∃ fault, (ofStatement s).tableDiagram options = .error fault
      ∧ (ofStatement s).columnDiagram options = .error fault)
    ∨ ∃ tables columns, (ofStatement s).tableDiagram options = .ok tables
      ∧ (ofStatement s).columnDiagram options = .ok columns
      ∧ tables.boxes = columns.boxes
      ∧ (∀ a b, (a, b) ∈ tables.pairs ↔ (ofStatement s).Connects a b)
      ∧ (∀ a b, (a, b) ∈ columns.pairs ↔ (ofStatement s).Connects a b)
      ∧ tables.pairs.Nodup
      ∧ tables.links.length ≤ columns.links.length
  := by
  unfold tableDiagram columnDiagram
  cases (ofStatement s).boxes options with
  | error fault => exact Or.inl ⟨fault, rfl, rfl⟩
  | ok boxes =>
    refine Or.inr ⟨_, _, rfl, rfl, rfl, ?_, ?_, ?_, ?_⟩
    · intro a b
      apply mem_pairs_tableLinks
    · intro a b
      apply mem_pairs_columnLinks
    · apply nodup_pairs_tableLinks
    · apply length_tableLinks_le

/-- The view of columns fails to be drawn only as some relation does. Otherwise its links with
handles are, one for one and in order, the edges that move data between columns of two boxes, and it
has one link without handles for each pair of boxes that other edges lead between and of which no
columns are connected. -/
theorem columnDiagram_links_connections (s : Statement) (options : Options) :
  (∃ fault, (ofStatement s).columnDiagram options = .error fault
      ∧ ∃ n ∈ s.nodes, n.kind.isRelation = true ∧ n.drawFault? options.catalog = some fault)
    ∨ ∃ d, (ofStatement s).columnDiagram options = .ok d
      ∧ List.Forall₂
        (fun e l => l.id = e.id ∧ l.sourceHandle = some e.source ∧ l.targetHandle = some e.target
          ∧ (ofStatement s).LinksColumns e l.source l.target)
        (s.edges.filter fun e => ∃ a b, (ofStatement s).LinksColumns e a b)
        (d.links.filter Link.isAnchored)
      ∧ (∀ l ∈ d.links, l.isAnchored = false → l.sourceHandle = none ∧ l.targetHandle = none)
      ∧ ((d.links.filter fun l => !l.isAnchored).map Link.pair).Nodup
      ∧ ∀ a b, (a, b) ∈ (d.links.filter fun l => !l.isAnchored).map Link.pair
        ↔ (∃ e ∈ s.edges, (ofStatement s).LinksBoxes e a b)
          ∧ ¬∃ e ∈ s.edges, (ofStatement s).LinksColumns e a b
  := by
  unfold columnDiagram
  cases hboxes : (ofStatement s).boxes options with
  | error fault => exact Or.inl ⟨fault, rfl, exists_fault_of_boxes hboxes⟩
  | ok boxes =>
    have hedges : (ofStatement s).columnFlows.map Connection.edge
        = s.edges.filter fun e => ∃ a b, (ofStatement s).LinksColumns e a b :=
      map_edge_columnFlows (ofStatement s)
    obtain ⟨hcolumns, hplain⟩ := filter_columnLinks (ofStatement s)
    refine Or.inr ⟨_, rfl, ?_, ?_, ?_, ?_⟩
    · rw [hcolumns, ← hedges, List.forall₂_map_left_iff,
        List.forall₂_map_right_iff, List.forall₂_same]
      intro c hc
      obtain ⟨e, -, a, b, h, rfl⟩ := mem_columnFlows.mp hc
      use rfl, rfl, rfl
      apply h
    · intro l hl hanchored
      have hmem : l ∈ (ofStatement s).plainLinks := by
        rw [← hplain]
        apply List.mem_filter.mpr ⟨hl, by simp [hanchored]⟩
      apply handles_of_mem (List.mem_filter.mp hmem).1
    · rw [hplain]
      apply nodup_pairs_plainLinks
    · intro a b
      rw [hplain, mem_pairs_plainLinks, ← exists_linksBoxes_iff, mem_pairs_columnFlows]
      rfl

/-- A statement that joins `A` and `B` and moves data between them, in both directions, and that moves
data between their columns in one. -/
def mixed : Statement :=
  { nodes :=
      [{ id := "A", kind := .table, label := "a" },
       { id := "B", kind := .table, label := "b" },
       { id := "A.x", kind := .column, label := "x" },
       { id := "B.x", kind := .column, label := "x" },
       { id := "B.y", kind := .column, label := "y" }]
    edges :=
      [{ id := "1", source := "A", target := "B", kind := .joinDependency },
       { id := "2", source := "B", target := "A", kind := .joinDependency },
       { id := "3", source := "A", target := "B", kind := .dataFlow },
       { id := "4", source := "B.y", target := "A", kind := .dataFlow },
       { id := "5", source := "A.x", target := "B.x", kind := .dataFlow },
       { id := "6", source := "B", target := "A", kind := .dataFlow },
       { id := "7", source := "A.x", target := "B.y", kind := .derivation },
       { id := "8", source := "A", target := "A.x", kind := .ownership },
       { id := "9", source := "B", target := "B.x", kind := .ownership },
       { id := "10", source := "B", target := "B.y", kind := .ownership }] }

example : (ofStatement mixed).columnLinks.map (fun l => (l.id, l.sourceHandle, l.targetHandle))
    = [("5", some "A.x", some "B.x"), ("7", some "A.x", some "B.y"), ("edge_B_to_A", none, none)]
  := by decide

/-- A statement that moves `x` from `A` to `C` by way of `B`, and `y` from `A` to `C`. -/
def detour : Statement :=
  { nodes :=
      [{ id := "A", kind := .table, label := "a" },
       { id := "B", kind := .table, label := "b" },
       { id := "C", kind := .table, label := "c" },
       { id := "A.x", kind := .column, label := "x" },
       { id := "A.y", kind := .column, label := "y" },
       { id := "B.x", kind := .column, label := "x" },
       { id := "C.x", kind := .column, label := "x" },
       { id := "C.y", kind := .column, label := "y" }]
    edges :=
      [{ id := "1", source := "A", target := "A.x", kind := .ownership },
       { id := "2", source := "A", target := "A.y", kind := .ownership },
       { id := "3", source := "B", target := "B.x", kind := .ownership },
       { id := "4", source := "C", target := "C.x", kind := .ownership },
       { id := "5", source := "C", target := "C.y", kind := .ownership },
       { id := "6", source := "A.x", target := "B.x", kind := .dataFlow },
       { id := "7", source := "B.x", target := "C.x", kind := .dataFlow },
       { id := "8", source := "A.y", target := "C.y", kind := .derivation }] }

example : (ofStatement detour).tableLinks.map Link.pair = [("A", "B"), ("B", "C"), ("A", "C")]
  := by decide

end Lineage.Placement
