import Lineage.Proofs.Connections
import Lineage.Proofs.Merging

/-!
# Repeated ids

A statement may use an id twice. Merging keeps the first node of an id, with the join that was
given last, and the first edge of an id, but a statement that is drawn alone is not merged and
keeps them all. If it says the same of an id each time, what it repeats is not seen in the view of
tables, and in the view of columns only a connection of two columns is drawn as often as it comes.
-/

namespace Lineage

theorem Node.withJoinOf_self (n : Node) : n.withJoinOf n = n := by
  have horElse : ∀ t, Text.orElse t t = t := by
    intro t
    unfold Text.orElse
    split <;> rfl
  simp [withJoinOf, horElse]

theorem Node.stamp_withJoinOf (sourceName : Option String) (old new : Node) :
  (old.withJoinOf new).stamp sourceName
    = (old.stamp sourceName).withJoinOf (new.stamp sourceName)
  := by
  have hnew : (new.stamp sourceName).joinType = new.joinType
      ∧ (new.stamp sourceName).joinCondition = new.joinCondition := by
    unfold stamp
    split <;> exact ⟨rfl, rfl⟩
  rw [withJoinOf, withJoinOf, hnew.1, hnew.2]
  unfold stamp
  split <;> rfl

namespace Statement

/-- The statement with every id once, as merging leaves it. -/
def once (s : Statement) : Statement :=
  { s with
    nodes := Keyed.collect Node.id Node.withJoinOf s.nodes
    edges := Keyed.firsts Edge.id s.edges }

/-- Whether a statement that uses an id twice says the same of it both times. -/
structure Consistent (s : Statement) : Prop where
  nodes : Keyed.Same Node.id s.nodes
  edges : Keyed.Same Edge.id s.edges

theorem stampedNodes_once (s : Statement) :
  s.once.stampedNodes = Keyed.collect Node.id Node.withJoinOf s.stampedNodes
  := by
  apply Keyed.map_collect
  · intro n
    apply Node.stamp_id
  · intro old new
    apply Node.stamp_withJoinOf

/-- Whether a statement is another one with what it repeats left out. -/
structure IsOnce (t s : Statement) : Prop where
  nodes : t.nodes = Keyed.firsts Node.id s.nodes
  edges : t.edges = Keyed.firsts Edge.id s.edges
  type : Text.upper t.type = Text.upper s.type

variable {s t : Statement}

theorem IsOnce.ownership (h : t.IsOnce s) (hs : s.Consistent) :
  Ownership.ofStatement t = Ownership.ofStatement s
  := by
  simp only [Ownership.ofStatement, h.nodes, h.edges, hs.nodes.lasts_filter_firsts,
    hs.edges.firsts_filterMap_firsts, hs.nodes.find?_firsts]

theorem IsOnce.orphans (h : t.IsOnce s) (hs : s.Consistent) (o : Ownership) :
  t.orphans o = s.orphans o
  := by
  have hquery : t.isQuery = s.isQuery := by rw [isQuery, isQuery, h.type]
  have hwrites : t.writesStored o = s.writesStored o := by
    rw [writesStored, h.edges, hs.edges.any_firsts]
    rfl
  rw [Statement.orphans, Statement.orphans, hquery, hwrites]

theorem IsOnce.recursive (h : t.IsOnce s) (hs : s.Consistent) (id : String) :
  t.recursive.contains id = s.recursive.contains id
  := by
  rw [Bool.eq_iff_iff]
  simp [Statement.recursive, h.edges, hs.edges.mem_firsts]

end Statement

namespace Placement

variable {s t : Statement}

theorem ofStatement_of_isOnce (h : t.IsOnce s) (hs : s.Consistent) :
  ofStatement t = { ofStatement s with statement := t }
  := by
  simp only [ofStatement, h.ownership hs, h.orphans hs]

theorem boxes_of_isOnce (h : t.IsOnce s) (hs : s.Consistent) (options : Options) :
  (ofStatement t).boxes options = (ofStatement s).boxes options
  := by
  have hbox : (ofStatement t).box options = (ofStatement s).box options := by
    funext n
    rw [ofStatement_of_isOnce h hs]
    unfold box relationBox
    simp only [h.recursive hs]
    rfl
  unfold boxes
  rw [hbox, ofStatement_of_isOnce h hs]
  rfl

/-- No connection of columns is repeated if no edge is. -/
theorem nodup_columnFlows {p : Placement} (h : (p.statement.edges.map Edge.id).Nodup) :
  (p.columnFlows.map fun c => c.edge.id).Nodup
  := by
  have hsub : (p.columnFlows.map Connection.edge).Sublist p.statement.edges := by
    rw [map_edge_columnFlows]
    apply List.filter_sublist
  simpa [Function.comp_def] using h.sublist (hsub.map Edge.id)

section Links

variable (h : t.IsOnce s) (hs : s.Consistent)

include h hs

theorem firsts_connections_of_isOnce {ι β : Type} [DecidableEq ι] (kinds : EdgeKind → Bool)
    (q : Connection → Bool) (f : Connection → β) (key : β → ι) :
  Keyed.firsts key ((((ofStatement t).connections kinds).filter q).map f)
    = Keyed.firsts key ((((ofStatement s).connections kinds).filter q).map f)
  := by
  have hlist : ∀ p : Placement, ((p.connections kinds).filter q).map f
      = p.statement.edges.filterMap fun e =>
        (((if kinds e.kind then p.connection? e else none).filter q).map f) := by
    intro p
    rw [connections_eq_filterMap, List.filter_filterMap, List.map_filterMap]
  rw [hlist, hlist, ofStatement_of_isOnce h hs]
  change Keyed.firsts key (t.edges.filterMap _) = _
  rw [h.edges, hs.edges.firsts_filterMap_firsts]
  rfl

theorem tableLinks_of_isOnce : (ofStatement t).tableLinks = (ofStatement s).tableLinks := by
  have hlinks : (ofStatement t).relationLink = (ofStatement s).relationLink
      ∧ (ofStatement t).joinLink = (ofStatement s).joinLink := by
    rw [ofStatement_of_isOnce h hs]
    exact ⟨rfl, rfl⟩
  unfold tableLinks
  rw [hlinks.1, hlinks.2]
  apply Keyed.firsts_append_congr
  · simpa [flows] using firsts_connections_of_isOnce h hs _ (fun _ => true) _ Link.pair
  · simpa [joins] using firsts_connections_of_isOnce h hs _ (fun _ => true) _ Link.pair

/-- The connections of two columns are the same if none of them is repeated. -/
theorem columnFlows_of_isOnce
    (hflows : ((ofStatement s).columnFlows.map fun c => c.edge.id).Nodup) :
  (ofStatement t).columnFlows = (ofStatement s).columnFlows
  := by
  have hflows' : ((ofStatement t).columnFlows.map fun c => c.edge.id).Nodup := by
    apply nodup_columnFlows
    change (t.edges.map Edge.id).Nodup
    rw [h.edges]
    apply Keyed.nodup_keys_firsts
  have hfirsts := firsts_connections_of_isOnce h hs EdgeKind.isFlow Connection.joinsColumns id
    fun c => c.edge.id
  simp only [List.map_id] at hfirsts
  change Keyed.firsts _ (ofStatement t).columnFlows = Keyed.firsts _ (ofStatement s).columnFlows
    at hfirsts
  rwa [Keyed.firsts, Keyed.firsts, Keyed.collect_of_nodup hflows', Keyed.collect_of_nodup hflows]
    at hfirsts

theorem columnLinks_of_isOnce
    (hflows : ((ofStatement s).columnFlows.map fun c => c.edge.id).Nodup) :
  (ofStatement t).columnLinks = (ofStatement s).columnLinks
  := by
  have hlinks : (ofStatement t).columnLink = (ofStatement s).columnLink
      ∧ (ofStatement t).relationLink = (ofStatement s).relationLink
      ∧ (ofStatement t).joinLink = (ofStatement s).joinLink := by
    rw [ofStatement_of_isOnce h hs]
    exact ⟨rfl, rfl, rfl⟩
  have hplain : Keyed.firsts Link.pair ((ofStatement t).relationFlows.map (ofStatement s).relationLink
        ++ (ofStatement t).joins.map (ofStatement s).joinLink)
      = Keyed.firsts Link.pair ((ofStatement s).relationFlows.map (ofStatement s).relationLink
        ++ (ofStatement s).joins.map (ofStatement s).joinLink) := by
    apply Keyed.firsts_append_congr
    · exact firsts_connections_of_isOnce h hs _ _ _ Link.pair
    · simpa [joins] using firsts_connections_of_isOnce h hs _ (fun _ => true) _ Link.pair
  simp only [columnLinks, hlinks, columnFlows_of_isOnce h hs hflows, hplain]

end Links

end Placement

namespace Statement

variable {s t : Statement}

/-- Next to a statement with nothing in it, a statement is merged to itself with every id once. -/
theorem merge_beside_empty (hnodes : t.nodes = []) (hedges : t.edges = []) (htype : t.type = s.type) :
  (merge [s, t]).nodes = Keyed.collect Node.id Node.withJoinOf s.stampedNodes
    ∧ (merge [s, t]).edges = Keyed.firsts Edge.id s.edges
    ∧ Text.upper (merge [s, t]).type = Text.upper s.type
  := by
  refine ⟨?_, ?_, ?_⟩
  · simp [merge, mergedNodes, stampedNodes, hnodes]
  · simp [merge, mergedEdges, hedges]
  · rw [upper_type_merge]
    apply commonType_of_forall (by simp)
    simp [htype]

end Statement

namespace View

open Statement

/-- A statement with what it repeats left out is drawn alike, unless the view of columns would draw
a connection twice. -/
theorem build_of_isOnce {us vs : List Statement} (h : (merge vs).IsOnce (merge us))
    (hus : (merge us).Consistent) {view : View} (hview : view = .table ∨ view = .column)
    (hflows : view = .column →
      ((Placement.ofStatements us).columnFlows.map fun c => c.edge.id).Nodup)
    (options : Options) :
  view.build vs options = view.build us options
  := by
  have hboxes := Placement.boxes_of_isOnce h hus options
  rcases hview with rfl | rfl
  · have hlinks := Placement.tableLinks_of_isOnce h hus
    simp only [build, Placement.tableDiagram, Placement.ofStatements, hboxes, hlinks]
  · have hlinks := Placement.columnLinks_of_isOnce h hus (hflows rfl)
    simp only [build, Placement.columnDiagram, Placement.ofStatements, hboxes, hlinks]

/-- Next to a statement with nothing in it, a statement is drawn with every id once. It is drawn
as it is alone if what it repeats is the same, and if no connection of columns is repeated in the
view of columns. -/
theorem build_beside_empty {s t : Statement} (hnodes : t.nodes = []) (hedges : t.edges = [])
    (htype : t.type = s.type) {view : View} (hview : view = .table ∨ view = .column)
    (options : Options) :
  view.build [s, t] options = view.build [s.once] options
    ∧ (s.stamped.Consistent →
      (view = .column →
        ((Placement.ofStatements [s]).columnFlows.map fun c => c.edge.id).Nodup) →
      view.build [s, t] options = view.build [s] options)
  := by
  obtain ⟨hmnodes, hmedges, hmtype⟩ := merge_beside_empty hnodes hedges htype
  constructor
  · have hnodup : (s.once.stampedNodes.map Node.id).Nodup := by
      rw [stampedNodes_once]
      apply Keyed.nodup_keys_collect
      intro old new _
      rfl
    have hnodup' : (s.once.edges.map Edge.id).Nodup := Keyed.nodup_keys_firsts _ _
    apply build_of_isOnce _ _ hview
    · intro _
      apply Placement.nodup_columnFlows
      change ((merge [s.once]).edges.map Edge.id).Nodup
      rwa [merge_singleton]
    · rw [merge_singleton]
      constructor
      · rw [hmnodes, ← stampedNodes_once, Keyed.firsts, Keyed.collect_of_nodup hnodup]
      · rw [hmedges, Keyed.firsts, Keyed.firsts, Keyed.collect_of_nodup hnodup']
        rfl
      · exact hmtype
    · rw [merge_singleton]
      exact ⟨Keyed.same_of_nodup hnodup, Keyed.same_of_nodup hnodup'⟩
  · intro hsame hflows
    have hsame' : (merge [s]).Consistent := hsame
    apply build_of_isOnce _ hsame' hview hflows
    rw [stamped_eq] at hsame
    rw [merge_singleton]
    constructor
    · rw [hmnodes, hsame.nodes.collect_eq_firsts Node.withJoinOf_self]
    · exact hmedges
    · exact hmtype

/-- A statement that names `A` and its column twice, once with the script that they are from. -/
def copied : Statement :=
  { type := "insert"
    sourceName := some "a.sql"
    nodes :=
      [{ id := "A", kind := .table, label := "a" },
       { id := "A.x", kind := .column, label := "x" },
       { id := "B", kind := .table, label := "b" },
       { id := "B.x", kind := .column, label := "x" },
       { id := "A", kind := .table, label := "a", sourceName := some "a.sql" }]
    edges :=
      [{ id := "1", source := "A", target := "A.x", kind := .ownership },
       { id := "2", source := "B", target := "B.x", kind := .ownership },
       { id := "3", source := "A.x", target := "B.x", kind := .dataFlow },
       { id := "4", source := "A", target := "B", kind := .dataFlow },
       { id := "1", source := "A", target := "A.x", kind := .ownership },
       { id := "4", source := "A", target := "B", kind := .dataFlow }] }

theorem build_beside_empty_copied :
  View.column.build [copied, { type := "insert" }] {} = View.column.build [copied] {}
  := by
  have hcopied : copied.stamped.Consistent := ⟨by decide, by decide⟩
  have h := build_beside_empty (s := copied) (t := { type := "insert" }) rfl rfl rfl
    (Or.inr rfl) {}
  exact h.2 hcopied (by decide)

/-- A statement that calls a table `a` first and `b` after that. -/
def relabelled : Statement :=
  { nodes :=
      [{ id := "A", kind := .table, label := "a" },
       { id := "A", kind := .table, label := "b" }] }

/-- A statement in which the edge `1` leads from `A` to `B` and back. -/
def rerouted : Statement :=
  { nodes :=
      [{ id := "A", kind := .table, label := "a" },
       { id := "B", kind := .table, label := "b" }]
    edges :=
      [{ id := "1", source := "A", target := "B", kind := .dataFlow },
       { id := "1", source := "B", target := "A", kind := .dataFlow }] }

/-- A statement that moves `x` from `A` to the output and says so twice. -/
def doubled : Statement :=
  { nodes :=
      [{ id := "A", kind := .table, label := "a" },
       { id := "A.x", kind := .column, label := "x" },
       { id := "x", kind := .column, label := "x" }]
    edges :=
      [{ id := "1", source := "A", target := "A.x", kind := .ownership },
       { id := "2", source := "A.x", target := "x", kind := .dataFlow },
       { id := "2", source := "A.x", target := "x", kind := .dataFlow }] }

theorem build_beside_empty_differs :
  View.table.build [relabelled, {}] {} ≠ View.table.build [relabelled] {}
    ∧ View.table.build [rerouted, {}] {} ≠ View.table.build [rerouted] {}
    ∧ View.column.build [doubled, {}] {} ≠ View.column.build [doubled] {}
  := by
  decide

end View

end Lineage
