import Lineage.Proofs.Connections
import Lineage.Proofs.Passes
import Lineage.Proofs.Reach

/-!
# Impact on tables and on columns

A link between columns lies over a link between the boxes of these columns, so a trace through
the view of columns lies over a trace through the view of tables that takes as many links. What
a column has an impact on is thus found, no further away, from its table.
-/

namespace Lineage

/-- Whether no two links share an id and none has that of a box or a column. -/
structure Diagram.LinksApart (d : Diagram) : Prop where
  nodup : (d.links.map Link.id).Nodup
  not_mem : ∀ l ∈ d.links, l.id ∉ d.elements

theorem Diagram.LinksApart.not_mem_ids {d : Diagram} (h : d.LinksApart) {x : String}
    (hx : x ∈ d.elements) :
  x ∉ d.links.map Link.id
  := by
  intro hid
  obtain ⟨l, hl, rfl⟩ := List.mem_map.mp hid
  exact h.not_mem l hl hx

theorem Diagram.handle_mem_elements {d : Diagram} {b : Box} (hb : b ∈ d.boxes) {x : String}
    (hx : x ∈ b.handles) :
  x ∈ d.elements
  := List.mem_flatMap.mpr ⟨b, hb, List.mem_cons_of_mem _ hx⟩

theorem Diagram.id_mem_elements {d : Diagram} {b : Box} (hb : b ∈ d.boxes) :
  b.id ∈ d.elements
  := List.mem_flatMap.mpr ⟨b, hb, List.mem_cons_self⟩

namespace Placement

variable {p : Placement}

/-! ### From elements to boxes -/

section Apart

variable {s : Statement} (hids : (s.nodes.map Node.id).Nodup)
  (houtput : ∀ n ∈ s.nodes, n.kind.isRelation = true ∨ n.kind = .column →
    n.id ≠ (ofStatement s).outputId)

include hids houtput

/-- The element that a place stands for is in the box of the place. -/
theorem boxOf_handle {id : String} {place : Place} (h : (ofStatement s).place? id = some place) :
  (ofStatement s).boxOf ((Text.filled place.handle).getD place.box) = place.box
  := by
  cases hfilled : Text.filled place.handle with
  | none => apply boxOf_of_draws hids houtput (draws_of_place? h)
  | some handle =>
    obtain ⟨hhandle, -⟩ := Text.filled_eq_some_iff.mp hfilled
    obtain rfl := handle_eq_of_place? h hhandle
    apply boxOf_of_place? h

/-- A link of the view of columns leads from an element in its first box to one in its second. -/
theorem boxOf_ends {l : Link} (h : l ∈ (ofStatement s).columnLinks) :
  (ofStatement s).boxOf l.sourceElement = l.source
    ∧ (ofStatement s).boxOf l.targetElement = l.target
  := by
  rcases mem_columnLinks_cases h with ⟨c, hc, rfl⟩ | hplain
  · obtain ⟨-, -, hsource, htarget, -⟩ := mem_connections.mp (List.mem_filter.mp hc).1
    exact ⟨boxOf_handle hids houtput hsource, boxOf_handle hids houtput htarget⟩
  · obtain ⟨hsource, htarget⟩ := draws_of_connects (connects_of_mem_columnLinks h)
    rw [Link.sourceElement_of_not_isAnchored hplain, Link.targetElement_of_not_isAnchored hplain]
    exact ⟨boxOf_of_draws hids houtput hsource, boxOf_of_draws hids houtput htarget⟩

/-- A walk between elements of the view of columns lies over one between their boxes. -/
theorem walk_tableLinks (hlinks : ((ofStatement s).columnLinks.map Link.id).Nodup)
    {x y : String} {n : Nat}
    (h : Reach.Walk (Reach.steps (ofStatement s).columnLinks) (.node x) (.node y) n) :
  Reach.Walk (Reach.steps (ofStatement s).tableLinks)
    (.node ((ofStatement s).boxOf x)) (.node ((ofStatement s).boxOf y)) n
  := by
  apply h.map_nodes hlinks
  intro l hl
  have hpair : l.pair ∈ (ofStatement s).tableLinks.map Link.pair := by
    apply mem_pairs_tableLinks.mpr
    apply connects_of_mem_columnLinks hl
  obtain ⟨l', hl', hpair'⟩ := List.mem_map.mp hpair
  obtain ⟨hsource, htarget⟩ : l'.source = l.source ∧ l'.target = l.target := by
    simpa [Link.pair] using hpair'
  obtain ⟨hx, hy⟩ := boxOf_ends hids houtput hl
  have hplain := not_isAnchored_of_mem hl'
  refine ⟨l', hl', ?_, ?_⟩
  · rw [Link.sourceElement_of_not_isAnchored hplain, hsource, hx]
  · rw [Link.targetElement_of_not_isAnchored hplain, htarget, hy]

end Apart

/-! ### Impact -/

/-- What depends on a column is in a table that depends on the table of the column, no more
links away. -/
theorem connected_tables_of_columns {s : Statement} (hids : (s.nodes.map Node.id).Nodup)
    (houtput : ∀ n ∈ s.nodes, n.kind.isRelation = true ∨ n.kind = .column →
      n.id ≠ (ofStatement s).outputId)
    {tables columns : Diagram} (htables : (ofStatement s).tableDiagram {} = .ok tables)
    (hcolumns : (ofStatement s).columnDiagram {} = .ok columns)
    (htapart : tables.LinksApart) (hcapart : columns.LinksApart)
    {boxA boxB : Box} (hA : boxA ∈ columns.boxes) (hB : boxB ∈ columns.boxes)
    {a b : String} (ha : a ∈ boxA.handles) (hb : b ∈ boxB.handles)
    (h : b ∈ Reach.connected columns.links .forward a) :
  boxB.id ∈ Reach.connected tables.links .forward boxA.id
    ∧ (boxA.id ≠ boxB.id → ∃ n m,
      (Reach.hops columns.links .forward a).lookup (.node b) = some n
        ∧ (Reach.hops tables.links .forward boxA.id).lookup (.node boxB.id) = some m
        ∧ m ≤ n)
  := by
  obtain ⟨hboxes, hlinks⟩ := columnDiagram_eq_ok_iff.mp hcolumns
  obtain ⟨hboxes', hlinks'⟩ := tableDiagram_eq_ok_iff.mp htables
  have hsame : tables.boxes = columns.boxes := by
    rw [hboxes] at hboxes'
    exact (Except.ok.inj hboxes').symm
  have hboxA : (ofStatement s).boxOf a = boxA.id :=
    boxOf_of_place? (place?_of_mem_handles rfl hboxes hA ha)
  have hboxB : (ofStatement s).boxOf b = boxB.id :=
    boxOf_of_place? (place?_of_mem_handles rfl hboxes hB hb)
  have ha' := hcapart.not_mem_ids (Diagram.handle_mem_elements hA ha)
  have hb' := hcapart.not_mem_ids (Diagram.handle_mem_elements hB hb)
  rw [← hsame] at hA hB
  have hA' := htapart.not_mem_ids (Diagram.id_mem_elements hA)
  have hB' := htapart.not_mem_ids (Diagram.id_mem_elements hB)
  have hover : ∀ n, Reach.Walk (Reach.steps columns.links) (.node a) (.node b) n →
      Reach.Walk (Reach.steps tables.links) (.node boxA.id) (.node boxB.id) n := by
    intro n hwalk
    rw [← hlinks] at hwalk
    rw [← hlinks', ← hboxA, ← hboxB]
    apply walk_tableLinks hids houtput (by rw [hlinks]; exact hcapart.nodup) hwalk
  obtain ⟨n, hwalk⟩ := (Reach.mem_connected_forward ha' hb').mp h
  constructor
  · exact (Reach.mem_connected_forward hA' hB').mpr ⟨n, hover n hwalk⟩
  · intro hne
    have hne' : a ≠ b := by
      rintro rfl
      exact hne (hboxA.symm.trans hboxB)
    obtain ⟨k, -, hnearest⟩ := hwalk.exists_nearest
    obtain ⟨m, hm, hnearest'⟩ := (hover k hnearest.walk).exists_nearest
    refine ⟨Reach.linksOn k, Reach.linksOn m, ?_, ?_, ?_⟩
    · exact (Reach.lookup_hops_forward ha' hne').mpr ⟨k, hnearest, rfl⟩
    · exact (Reach.lookup_hops_forward hA' hne).mpr ⟨m, hnearest', rfl⟩
    · unfold Reach.linksOn
      omega

/-- Two links lead from `x` in `A` to `x` in `C`, but only one from `A` to `C`. -/
theorem connected_tables_of_columns_detour :
  ∃ tables columns, (ofStatement detour).tableDiagram {} = .ok tables
    ∧ (ofStatement detour).columnDiagram {} = .ok columns
    ∧ tables.LinksApart ∧ columns.LinksApart
    ∧ "C.x" ∈ Reach.connected columns.links .forward "A.x"
    ∧ "C" ∈ Reach.connected tables.links .forward "A"
    ∧ ∃ n m, (Reach.hops columns.links .forward "A.x").lookup (.node "C.x") = some n
      ∧ (Reach.hops tables.links .forward "A").lookup (.node "C") = some m
      ∧ m ≤ n
  := by
  refine ⟨_, _, rfl, rfl, ⟨by decide, by decide⟩, ⟨by decide, by decide⟩, by decide, ?_⟩
  have h := connected_tables_of_columns (s := detour) (by decide) (by decide) rfl rfl
    ⟨by decide, by decide⟩ ⟨by decide, by decide⟩
    (by decide : (ofStatement detour).relationBox {} { id := "A", kind := .table, label := "a" }
      ⟨[{ id := "A.x", name := "x" }, { id := "A.y", name := "y" }], 0⟩ {} ∈ _)
    (by decide : (ofStatement detour).relationBox {} { id := "C", kind := .table, label := "c" }
      ⟨[{ id := "C.x", name := "x" }, { id := "C.y", name := "y" }], 0⟩ {} ∈ _)
    (by decide : "A.x" ∈ _) (by decide : "C.x" ∈ _) (by decide)
  exact ⟨h.1, h.2 (by decide)⟩

end Placement

end Lineage
