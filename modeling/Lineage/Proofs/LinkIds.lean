import Lineage.Proofs.BuiltViews
import Lineage.Proofs.Repetition

/-!
# Ids of links

A link that stands for a connection of columns or for a join has the id of an edge. All other links
have an id that is made of the ids of their boxes, or of the names of their scripts, with a word
between them. If no edge is repeated, then links between the same boxes have ids of their own, so
an id is repeated only if it can be read as that of two different pairs of boxes. This does not
happen if the boxes have ids without the word and no edge has the id of a pair of boxes.
-/

namespace Lineage

/-- The id of a link between two boxes tells the boxes if the first of them neither has `_to_`
in its id nor ends in `_to`. -/
theorem Link.pairId_inj {a b c d : String} (ha : ¬"_to_".toList <:+: a.toList ++ "_to".toList)
    (hc : ¬"_to_".toList <:+: c.toList ++ "_to".toList) (h : pairId a b = pairId c d) :
  (a, b) = (c, d)
  := by
  have hlist : a.toList ++ ("_to_".toList ++ b.toList) = c.toList ++ ("_to_".toList ++ d.toList) := by
    simpa [pairId, toString] using congrArg String.toList h
  obtain ⟨hac, hbd⟩ := Script.separated_inj ha hc hlist
  rw [String.toList_inj.mp hac, String.toList_inj.mp hbd]

/-- If links between the same boxes have ids of their own, then an id is repeated only for
different pairs of boxes. -/
theorem nodup_ids_iff {links : List Link}
    (h : links.Pairwise fun l m => l.pair = m.pair → l.id ≠ m.id) :
  (links.map Link.id).Nodup ↔ ∀ l ∈ links, ∀ m ∈ links, l.id = m.id → l.pair = m.pair
  := by
  constructor
  · intro hnodup l hl m hm hid
    rw [List.inj_on_of_nodup_map hnodup hl hm hid]
  · intro hpairs
    rw [List.Nodup, List.pairwise_map]
    apply h.imp_of_mem
    intro l m hl hm hne hid
    apply hne (hpairs l hl m hm hid) hid

/-- A list that links no pair twice. -/
theorem pairwise_of_nodup_pairs {links : List Link} (h : (links.map Link.pair).Nodup) :
  links.Pairwise fun l m => l.pair = m.pair → l.id ≠ m.id
  := (List.pairwise_map.mp h).imp fun hne hpair => absurd hpair hne

namespace Placement

/-! ### Links of a statement -/

variable {p : Placement}

/-- The links of one pair have ids of their own in the view of columns. -/
theorem pairwise_columnLinks (h : (p.statement.edges.map Edge.id).Nodup) :
  p.columnLinks.Pairwise fun l m => l.pair = m.pair → l.id ≠ m.id
  := by
  rw [columnLinks_eq, List.pairwise_append]
  refine ⟨?_, ?_, ?_⟩
  · rw [List.pairwise_map]
    apply (List.pairwise_map.mp (nodup_columnFlows h)).imp
    intro c d hne _
    apply hne
  · apply pairwise_of_nodup_pairs (nodup_pairs_plainLinks p)
  · -- plain links are left out where columns are connected
    intro l hl m hm hpair
    obtain ⟨c, hc, rfl⟩ := List.mem_map.mp hl
    obtain ⟨-, hnot⟩ := mem_pairs_plainLinks.mp (List.mem_map_of_mem hm)
    apply absurd _ hnot
    rw [← hpair]
    apply List.mem_map_of_mem hc

/-- A link has the id of its pair of boxes, or that of an edge whose ends are in the two boxes. -/
def IdOfEnds (p : Placement) (l : Link) : Prop :=
  l.id = Link.pairId l.source l.target
    ∨ ∃ e ∈ p.statement.edges, l.id = e.id
      ∧ (p.place? e.source).map Place.box = some l.source
      ∧ (p.place? e.target).map Place.box = some l.target

theorem idOfEnds_of_mem_connections {kinds : EdgeKind → Bool} {c : Connection}
    (hc : c ∈ p.connections kinds) {l : Link} (hid : l.id = c.edge.id) (hpair : l.pair = c.pair) :
  p.IdOfEnds l
  := by
  obtain ⟨hedge, -, hsource, htarget, -⟩ := mem_connections.mp hc
  obtain ⟨hl, hl'⟩ := Prod.mk.inj hpair
  refine Or.inr ⟨c.edge, hedge, hid, ?_, ?_⟩
  · rw [hsource, hl, Option.map_some]
  · rw [htarget, hl', Option.map_some]

theorem idOfEnds_of_mem_firsts {cs : List Connection} {l : Link}
    (h : l ∈ Keyed.firsts Link.pair (cs.map p.relationLink ++ p.joins.map p.joinLink)) :
  p.IdOfEnds l
  := by
  rcases List.mem_append.mp (Keyed.mem_of_mem_firsts h) with h | h
  · obtain ⟨c, -, rfl⟩ := List.mem_map.mp h
    exact Or.inl rfl
  · obtain ⟨c, hc, rfl⟩ := List.mem_map.mp h
    apply idOfEnds_of_mem_connections hc rfl rfl

theorem idOfEnds_of_mem_columnLinks {l : Link} (h : l ∈ p.columnLinks) : p.IdOfEnds l := by
  rcases List.mem_append.mp h with h | h
  · obtain ⟨c, hc, rfl⟩ := List.mem_map.mp h
    apply idOfEnds_of_mem_connections (List.mem_filter.mp hc).1 rfl rfl
  · apply idOfEnds_of_mem_firsts (List.mem_filter.mp h).1

/-- Two links with one id join the same boxes if no edge is repeated, no edge has the id of a pair
of boxes, and the ids of the boxes are apart. -/
theorem IdOfEnds.pair_eq {l m : Link} (hl : p.IdOfEnds l) (hm : p.IdOfEnds m)
    (hnodup : (p.statement.edges.map Edge.id).Nodup) {ids : List String}
    (hids : ∀ a ∈ ids, ¬"_to_".toList <:+: a.toList ++ "_to".toList)
    (hedges : ∀ e ∈ p.statement.edges, ∀ a ∈ ids, ∀ b ∈ ids, e.id ≠ Link.pairId a b)
    (hls : l.source ∈ ids) (hlt : l.target ∈ ids) (hms : m.source ∈ ids) (hmt : m.target ∈ ids)
    (hid : l.id = m.id) :
  l.pair = m.pair
  := by
  rcases hl with hl | ⟨e, he, hl, hsource, htarget⟩ <;>
    rcases hm with hm | ⟨f, hf, hm, hsource', htarget'⟩
  · rw [hl, hm] at hid
    apply Link.pairId_inj (hids _ hls) (hids _ hms) hid
  · exact absurd (hm.symm.trans (hid.symm.trans hl)) (hedges f hf _ hls _ hlt)
  · exact absurd (hl.symm.trans (hid.trans hm)) (hedges e he _ hms _ hmt)
  · obtain rfl : e = f := List.inj_on_of_nodup_map hnodup he hf (hl.symm.trans (hid.trans hm))
    rw [hsource, Option.some.injEq] at hsource'
    rw [htarget, Option.some.injEq] at htarget'
    apply Prod.ext hsource' htarget'

end Placement

/-! ### Links of scripts -/

namespace Script

/-- A link whose target begins with some word tells its ends by its id, if an arrow and the word do
not come in the id of its source. -/
theorem flowLink_inj (word : List Char) {a b c d : String} {x y : List Char}
    (hword : ∀ k < (['-', '>'] ++ word).length, 0 < k →
      ¬(['-', '>'] ++ word).drop k <+: ['-', '>'] ++ word)
    (ha : ¬['-', '>'] ++ word <:+: a.toList) (hc : ¬['-', '>'] ++ word <:+: c.toList)
    (hb : b.toList = word ++ x) (hd : d.toList = word ++ y)
    (h : (flowLink a b).id = (flowLink c d).id) :
  (flowLink a b).pair = (flowLink c d).pair
  := by
  have hid : ∀ a b : String, (flowLink a b).id.toList = a.toList ++ (['-', '>'] ++ b.toList) := by
    intro a b
    change (a ++ "->" ++ b).toList = _
    simp
  have hlist := congrArg String.toList h
  rw [hid, hid, hb, hd, ← List.append_assoc _ word x, ← List.append_assoc _ word y] at hlist
  obtain ⟨hac, hxy⟩ := separated_inj (not_infix_append_dropLast hword ha)
    (not_infix_append_dropLast hword hc) hlist
  rw [String.toList_inj.mp hac, String.toList_inj.mp (hb.trans (hxy ▸ hd.symm))]

/-- A link from a script and a link to a script have different ids. -/
theorem flowLink_boxId_ne (a b c d : String) :
  (flowLink (boxId a) b).id ≠ (flowLink (tableId c) d).id
  := by
  intro h
  have hlist := congrArg String.toList h
  simp [flowLink, boxId_eq, tableId_eq, toString] at hlist

end Script

namespace View

/-- Whether the ids of the links of a view, which are made of the ids of the boxes, can be told
from each other and from the ids of edges. -/
def SeparatesIds (view : View) (statements : List Statement) (d : Diagram) : Prop :=
  match view with
  | .table | .column =>
    (∀ a ∈ d.boxIds, ¬"_to_".toList <:+: a.toList ++ "_to".toList) ∧
      ∀ e ∈ (Statement.merge statements).edges, ∀ a ∈ d.boxIds, ∀ b ∈ d.boxIds,
        e.id ≠ Link.pairId a b
  | .script => True
  | .hybrid => ∀ b ∈ d.boxes,
    (b.kind = .script → ¬"->table:".toList <:+: b.id.toList) ∧
      (b.kind = .simpleTable → ¬"->script:".toList <:+: b.id.toList)

variable {view : View} {statements : List Statement} {options : Options} {d : Diagram}

theorem nodup_edge_ids (hlength : 2 ≤ statements.length) :
  ((Placement.ofStatements statements).statement.edges.map Edge.id).Nodup
  := by
  have hedges : (Statement.merge statements).edges = Statement.mergedEdges statements := by
    rw [Statement.merge_eq_of_length_ne (by omega)]
  change ((Statement.merge statements).edges.map Edge.id).Nodup
  rw [hedges]
  apply Keyed.nodup_keys_firsts

/-- The links between the same boxes have ids of their own. -/
theorem pairwise_links (hlength : 2 ≤ statements.length)
    (h : view.build statements options = .ok d) :
  d.links.Pairwise fun l m => l.pair = m.pair → l.id ≠ m.id
  := by
  cases view with
  | table =>
    rw [← (Placement.tableDiagram_eq_ok_iff.mp h).2]
    apply pairwise_of_nodup_pairs (Placement.nodup_pairs_tableLinks _)
  | column =>
    rw [← (Placement.columnDiagram_eq_ok_iff.mp h).2]
    apply Placement.pairwise_columnLinks (nodup_edge_ids hlength)
  | script =>
    cases h
    apply pairwise_of_nodup_pairs (Script.nodup_pairs_diagram statements options)
  | hybrid =>
    rw [View.build_hybrid_eq_ok_iff] at h
    apply pairwise_of_nodup_pairs (Script.nodup_pairs_hybridDiagram h)

/-- The ends of a link of a statement are boxes, and its id is that of its ends. -/
theorem idOfEnds_of_mem (hview : view = .table ∨ view = .column)
    (h : view.build statements options = .ok d) {l : Link} (hl : l ∈ d.links) :
  (Placement.ofStatements statements).IdOfEnds l ∧ l.source ∈ d.boxIds ∧ l.target ∈ d.boxIds
  := by
  rcases hview with rfl | rfl
  · obtain ⟨hboxes, hlinks⟩ := Placement.tableDiagram_eq_ok_iff.mp h
    rw [← hlinks] at hl
    obtain ⟨hsource, htarget⟩ := Placement.draws_of_connects (Placement.connects_of_mem_tableLinks hl)
    exact ⟨Placement.idOfEnds_of_mem_firsts hl, (Placement.mem_map_id_boxes hboxes).mpr hsource,
      (Placement.mem_map_id_boxes hboxes).mpr htarget⟩
  · obtain ⟨hboxes, hlinks⟩ := Placement.columnDiagram_eq_ok_iff.mp h
    rw [← hlinks] at hl
    obtain ⟨hsource, htarget⟩ :=
      Placement.draws_of_connects (Placement.connects_of_mem_columnLinks hl)
    exact ⟨Placement.idOfEnds_of_mem_columnLinks hl, (Placement.mem_map_id_boxes hboxes).mpr hsource,
      (Placement.mem_map_id_boxes hboxes).mpr htarget⟩

/-- In a view that separates ids, two links with one id join the same boxes. -/
theorem pair_eq_of_separatesIds (hlength : 2 ≤ statements.length)
    (h : view.build statements options = .ok d) (hd : view.SeparatesIds statements d)
    {l m : Link} (hl : l ∈ d.links) (hm : m ∈ d.links) (hid : l.id = m.id) :
  l.pair = m.pair
  := by
  -- the view of tables and the view of columns separate ids in the same way
  have hstatement : view = .table ∨ view = .column →
      (∀ a ∈ d.boxIds, ¬"_to_".toList <:+: a.toList ++ "_to".toList) →
      (∀ e ∈ (Statement.merge statements).edges, ∀ a ∈ d.boxIds, ∀ b ∈ d.boxIds,
        e.id ≠ Link.pairId a b) → l.pair = m.pair := by
    intro hview hids hedges
    obtain ⟨hl, hls, hlt⟩ := idOfEnds_of_mem hview h hl
    obtain ⟨hm, hms, hmt⟩ := idOfEnds_of_mem hview h hm
    apply hl.pair_eq hm (nodup_edge_ids hlength) hids hedges hls hlt hms hmt hid
  cases view with
  | table => apply hstatement (Or.inl rfl) hd.1 hd.2
  | column => apply hstatement (Or.inr rfl) hd.1 hd.2
  | script =>
    cases h
    rw [List.inj_on_of_nodup_map (Keyed.nodup_keys_firsts _ _) hl hm hid]
  | hybrid =>
    rw [View.build_hybrid_eq_ok_iff] at h
    obtain ⟨p, hp, t, ht, hpkind, htkind, x, y, hpid, htid, hends⟩ := Script.ends_of_mem_hybrid h hl
    obtain ⟨q, hq, u, hu, hqkind, hukind, v, w, hqid, huid, hends'⟩ := Script.ends_of_mem_hybrid h hm
    have hp' := hpid ▸ (hd p hp).1 hpkind
    have hq' := hqid ▸ (hd q hq).1 hqkind
    have ht' := htid ▸ (hd t ht).2 htkind
    have hu' := huid ▸ (hd u hu).2 hukind
    rcases hends with rfl | rfl <;> rcases hends' with rfl | rfl
    · apply Script.flowLink_inj "table:".toList (by decide) hp' hq' String.toList_append
        String.toList_append hid
    · exact absurd hid (Script.flowLink_boxId_ne _ _ _ _)
    · exact absurd hid.symm (Script.flowLink_boxId_ne _ _ _ _)
    · apply Script.flowLink_inj "script:".toList (by decide) ht' hu' String.toList_append
        String.toList_append hid

/-- Unless there is a fault with one of the relations, the links of a view of at least two
statements have ids of their own exactly if no id is that of links between different boxes. No id
is if the view separates ids, and never in the view of scripts. -/
theorem build_nodup_ids (view : View) (hlength : 2 ≤ statements.length) (options : Options) :
  (∃ fault, view.build statements options = .error fault
      ∧ ∃ n ∈ view.housed statements, n.drawFault? (view.catalog? options) = some fault)
    ∨ ∃ d, view.build statements options = .ok d
      ∧ ((d.links.map Link.id).Nodup
          ↔ ∀ l ∈ d.links, ∀ m ∈ d.links, l.id = m.id → l.pair = m.pair)
      ∧ (view.SeparatesIds statements d → (d.links.map Link.id).Nodup)
  := by
  cases hbuild : view.build statements options with
  | error fault => exact Or.inl ⟨fault, rfl, exists_housed_of_build hbuild⟩
  | ok d =>
    have hiff := nodup_ids_iff (pairwise_links hlength hbuild)
    refine Or.inr ⟨d, rfl, hiff, ?_⟩
    intro hd
    apply hiff.mpr
    intro l hl m hm
    apply pair_eq_of_separatesIds hlength hbuild hd hl hm

/-- Two columns are connected twice, and the relations that own them are connected to a third. -/
def braided : List Statement :=
  [{ nodes :=
      [{ id := "a_t", kind := .table, label := "a_t" },
       { id := "o_b", kind := .table, label := "o_b" },
       { id := "a_t.x", kind := .column, label := "x" },
       { id := "o_b.x", kind := .column, label := "x" }]
     edges :=
      [{ id := "1", source := "a_t", target := "a_t.x", kind := .ownership },
       { id := "2", source := "o_b", target := "o_b.x", kind := .ownership },
       { id := "edge_1", source := "a_t.x", target := "o_b.x", kind := .dataFlow },
       { id := "edge_2", source := "a_t.x", target := "o_b.x", kind := .derivation }] },
   { nodes :=
      [{ id := "o_b", kind := .table, label := "o_b" },
       { id := "c", kind := .view, label := "c" }]
     edges :=
      [{ id := "edge_1", source := "c", target := "o_b", kind := .dataFlow },
       { id := "edge_o_b", source := "o_b", target := "c", kind := .dataFlow },
       { id := "edge_c", source := "c", target := "a_t", kind := .joinDependency }] }]

/-- The view of columns has links of all three sorts, two of them between the same boxes, and the
hybrid view has names with parts of an arrow. -/
theorem build_nodup_ids_braided :
  (∃ d, View.column.build braided {} = .ok d
    ∧ d.links.map Link.id = ["edge_1", "edge_2", "edge_o_b_to_c", "edge_c"]
    ∧ (d.links.map Link.id).Nodup)
  ∧ ∃ d, View.hybrid.build reloaded {} = .ok d
    ∧ d.links.length = 6
    ∧ (d.links.map Link.id).Nodup
  := by
  constructor
  · obtain ⟨_, herror, -⟩ | ⟨d, hd, -, hnodup⟩ :=
      build_nodup_ids .column (show 2 ≤ braided.length by decide) {}
    · cases herror
    · cases hd
      exact ⟨_, rfl, rfl, hnodup ⟨by decide +kernel, by decide +kernel⟩⟩
  · obtain ⟨_, herror, -⟩ | ⟨d, hd, -, hnodup⟩ :=
      build_nodup_ids .hybrid (show 2 ≤ reloaded.length by decide) {}
    · cases herror
    · cases hd
      refine ⟨_, rfl, rfl, hnodup ?_⟩
      change ∀ b ∈ _, _
      decide +kernel

/-- Data moves from `a` to the table `b_to_c`, and from the table `a_to_b` to `c`. -/
def lookalikes : List Statement :=
  [{ type := "insert"
     nodes :=
      [{ id := "a", kind := .table, label := "a" },
       { id := "b_to_c", kind := .table, label := "b_to_c" }]
     edges := [{ id := "1", source := "a", target := "b_to_c", kind := .dataFlow }] },
   { type := "insert"
     nodes :=
      [{ id := "a_to_b", kind := .table, label := "a_to_b" },
       { id := "c", kind := .table, label := "c" }]
     edges := [{ id := "2", source := "a_to_b", target := "c", kind := .dataFlow }] }]

/-- The two links have one id, so `c` is found in the lineage of `a`, which does not lead to it. -/
theorem build_repeats_id :
  ∃ d, View.table.build lookalikes {} = .ok d
    ∧ d.pairs = [("a", "b_to_c"), ("a_to_b", "c")]
    ∧ d.links.map Link.id = ["edge_a_to_b_to_c", "edge_a_to_b_to_c"]
    ∧ "c" ∈ Reach.connected d.links .forward "a"
  := by
  refine ⟨_, rfl, ?_, ?_, ?_⟩
  · rfl
  · rfl
  · decide

end View

end Lineage
