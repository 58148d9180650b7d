import Lineage.Proofs.Connections
import Lineage.Proofs.Passes

/-!
# Views in a scope

A diagram is whole if no two boxes share an id and no link misses an end. What is left of a whole
diagram in a scope, once loose links are dropped, is the part that the boxes in the scope induce:
these boxes, and all links between them. The two diagrams of a statement are whole and stay whole
when the links of collapsed boxes are redrawn, so in any scope the view of tables and the view of
columns link the same pairs of boxes.
-/

namespace Lineage

/-- A scope that leaves nothing out holds every box. -/
theorem Scope.holds_of_not_isActive {scope : Scope} (h : scope.isActive = false) (b : Box) :
  scope.holds b = true
  := by
  obtain ⟨hschemas, hdatabases⟩ : scope.schemas = [] ∧ scope.databases = [] := by
    simpa [isActive] using h
  unfold holds
  split
  · rfl
  · simp [admits, hschemas, hdatabases]

namespace Diagram

/-! ### Whole diagrams -/

/-- A diagram with one box of every id, and without loose links. -/
structure IsWhole (d : Diagram) : Prop where
  nodup : d.boxIds.Nodup
  resolves : ∀ l ∈ d.links, d.resolves l = true

/-- If no two boxes share an id, the handles of an id are those of its box. -/
theorem handlesOf_id {d : Diagram} (hd : d.boxIds.Nodup) {b : Box} (hb : b ∈ d.boxes) :
  d.handlesOf b.id = b.handles
  := by
  have htables : d.tableBoxes = d.boxes.filter (·.table?.isSome) := by
    apply Keyed.collect_of_nodup
    exact hd.sublist (List.filter_sublist.map _)
  have hnodup : (d.tableBoxes.map Box.id).Nodup := Keyed.nodup_keys_lasts _ _
  have hfind : ∀ b', d.tableBoxes.find? (·.id = b.id) = some b'
      ↔ (b' ∈ d.boxes ∧ b'.table?.isSome = true) ∧ b'.id = b.id := by
    intro b'
    rw [Keyed.find?_eq_some_iff_mem hnodup, htables, List.mem_filter]
  unfold handlesOf
  cases htable : b.table? with
  | some face => rw [(hfind b).mpr ⟨⟨hb, by simp [htable]⟩, rfl⟩, Option.elim_some]
  | none =>
    have hnone : d.tableBoxes.find? (·.id = b.id) = none := by
      apply Option.eq_none_iff_forall_ne_some.mpr
      intro b' hb'
      obtain ⟨⟨hmem, hsome⟩, hid⟩ := (hfind b').mp hb'
      rw [List.inj_on_of_nodup_map hd hmem hb hid, htable] at hsome
      cases hsome
    rw [hnone, Option.elim_none, Box.handles, Box.columns, htable]
    rfl

/-! ### Induced parts -/

/-- The boxes that satisfy a test, and the links between them. -/
def induced (d : Diagram) (p : Box → Bool) : Diagram :=
  let ids := (d.boxes.filter p).map Box.id
  { boxes := d.boxes.filter p
    links := d.links.filter fun l => ids.contains l.source && ids.contains l.target }

theorem mem_pairs_induced {d : Diagram} {p : Box → Bool} {pair : String × String} :
  pair ∈ (d.induced p).pairs
    ↔ pair ∈ d.pairs
      ∧ pair.1 ∈ (d.boxes.filter p).map Box.id ∧ pair.2 ∈ (d.boxes.filter p).map Box.id
  := by
  constructor
  · intro h
    obtain ⟨l, hl, rfl⟩ := List.mem_map.mp h
    obtain ⟨hmem, hends⟩ := List.mem_filter.mp hl
    exact ⟨List.mem_map_of_mem hmem, by simpa [Link.pair] using hends⟩
  · rintro ⟨h, hends⟩
    obtain ⟨l, hl, rfl⟩ := List.mem_map.mp h
    refine List.mem_map_of_mem (List.mem_filter.mpr ⟨hl, ?_⟩)
    simpa [Link.pair] using hends

/-- If the box at the end of a link is kept, the end is an element that is kept, and it is there. -/
theorem end_of_mem_keep {d : Diagram} (hd : d.boxIds.Nodup) {p : Box → Bool} {id : String}
    {handle : Option String} (hid : id ∈ (d.keep p).boxIds)
    (hfits : fits (d.handlesOf id) handle = true) :
  (Text.filled handle).getD id ∈ (d.keep p).elements
    ∧ fits ((d.keep p).handlesOf id) handle = true
  := by
  obtain ⟨b, hb, rfl⟩ := List.mem_map.mp hid
  have hb' : b ∈ d.boxes := (d.keep_isPart p).boxes.mem hb
  have hkeep : (d.keep p).boxIds.Nodup := hd.sublist ((d.keep_isPart p).boxes.map _)
  rw [handlesOf_id hd hb'] at hfits
  rw [handlesOf_id hkeep hb]
  refine ⟨List.mem_flatMap.mpr ⟨b, hb, ?_⟩, hfits⟩
  cases hhandle : Text.filled handle with
  | none => simp [Box.elements]
  | some h => exact List.mem_cons_of_mem _ (fits_iff.mp hfits h hhandle)

/-- Keeping some boxes of a whole diagram and dropping loose links leaves what these boxes
induce. -/
theorem prune_keep {d : Diagram} (hd : d.IsWhole) (p : Box → Bool) :
  (d.keep p).prune = d.induced p
  := by
  have hlinks : (d.keep p).links.filter (d.keep p).resolves = (d.induced p).links := by
    unfold induced
    rw [keep, List.filter_filter]
    apply List.filter_congr
    intro l hl
    have hresolves := hd.resolves l hl
    rw [Bool.eq_iff_iff]
    simp only [resolves, Bool.and_eq_true, List.contains_iff_mem] at hresolves ⊢
    obtain ⟨⟨-, hsource⟩, htarget⟩ := hresolves
    constructor
    · rintro ⟨⟨⟨hends, -⟩, -⟩, -⟩
      exact hends
    · rintro ⟨hs, ht⟩
      obtain ⟨hs', hsfits⟩ := end_of_mem_keep hd.nodup hs hsource
      obtain ⟨ht', htfits⟩ := end_of_mem_keep hd.nodup ht htarget
      exact ⟨⟨⟨⟨hs, ht⟩, hsfits⟩, htfits⟩, hs', ht'⟩
  rw [prune_eq, hlinks]
  rfl

theorem induced_of_forall {d : Diagram} (hd : d.IsWhole) {p : Box → Bool}
    (hp : ∀ b ∈ d.boxes, p b = true) :
  d.induced p = d
  := by
  have hboxes : d.boxes.filter p = d.boxes := List.filter_eq_self.mpr hp
  have hlinks : (d.links.filter fun l =>
      (d.boxes.map Box.id).contains l.source && (d.boxes.map Box.id).contains l.target)
        = d.links := by
    apply List.filter_eq_self.mpr
    intro l hl
    obtain ⟨⟨hsource, htarget⟩, -⟩ := resolves_iff.mp (hd.resolves l hl)
    simpa [boxIds] using And.intro hsource htarget
  rw [induced, hboxes, hlinks]

theorem prune_eq_self_iff {d : Diagram} : d.prune = d ↔ ∀ l ∈ d.links, d.resolves l = true := by
  rw [prune_eq, ← List.filter_eq_self]
  constructor
  · intro h
    exact congrArg links h
  · intro h
    rw [h]

theorem prune_of_isWhole {d : Diagram} (hd : d.IsWhole) : d.prune = d :=
  prune_eq_self_iff.mpr hd.resolves

/-- What is left of a whole diagram in a scope is what the boxes in the scope induce. -/
theorem prune_within {d : Diagram} (hd : d.IsWhole) (scope : Scope) :
  (d.within scope).prune = d.induced scope.holds
  := by
  rw [within_eq]
  split
  · apply prune_keep hd
  · next hinactive =>
    rw [prune_of_isWhole hd, induced_of_forall hd]
    intro b _
    apply Scope.holds_of_not_isActive
    simpa using hinactive

/-! ### Collapsed boxes -/

/-- Redrawing the links of collapsed boxes keeps the pairs that are linked. -/
theorem mem_pairs_remap {d : Diagram} {pair : String × String} :
  pair ∈ d.remap.pairs ↔ pair ∈ d.pairs
  := by
  rw [remap_eq]
  constructor
  · intro h
    obtain ⟨l, hl, rfl⟩ := List.mem_map.mp h
    exact mem_pairs_of_mem_remapLinks hl
  · intro h
    obtain ⟨l, hl, rfl⟩ := List.mem_map.mp h
    cases htouches : d.touchesCollapsed l with
    | false => exact List.mem_map_of_mem (mem_remapLinks.mpr (Or.inl ⟨hl, htouches⟩))
    | true =>
      have hfind : (d.links.find? fun k => d.touchesCollapsed k && k.pair = l.pair).isSome := by
        rw [List.find?_isSome]
        exact ⟨l, hl, by simp [htouches]⟩
      obtain ⟨m, hm⟩ := Option.isSome_iff_exists.mp hfind
      have hpair : m.pair = l.pair := by
        have h := List.find?_some hm
        simp only [Bool.and_eq_true, decide_eq_true_eq] at h
        exact h.2
      rw [← hpair] at hm ⊢
      rw [← m.plain_pair]
      exact List.mem_map_of_mem (mem_remapLinks.mpr (Or.inr ⟨m, hm, by simp, rfl⟩))

/-- A link without handles is not loose if the boxes that it joins are there. -/
theorem resolves_of_not_isAnchored {d : Diagram} {l : Link} (hl : l.isAnchored = false)
    (hsource : l.source ∈ d.boxIds) (htarget : l.target ∈ d.boxIds) :
  d.resolves l = true
  := by
  obtain ⟨hs, ht⟩ := Link.isAnchored_eq_false_iff.mp hl
  refine resolves_iff.mpr ⟨⟨hsource, htarget⟩, ?_, ?_⟩
  · simp [hs]
  · simp [ht]

theorem remap_isWhole {d : Diagram} (hd : d.IsWhole) : d.remap.IsWhole := by
  rw [remap_eq]
  refine ⟨hd.nodup, ?_⟩
  intro l hl
  rcases mem_remapLinks.mp hl with ⟨hmem, -⟩ | ⟨m, hm, -, rfl⟩
  · exact hd.resolves l hmem
  · obtain ⟨⟨hsource, htarget⟩, -⟩ :=
      resolves_iff.mp (hd.resolves m (List.mem_of_find?_eq_some hm))
    apply resolves_of_not_isAnchored m.plain_isAnchored
    · rw [Link.plain_source]
      exact hsource
    · rw [Link.plain_target]
      exact htarget

/-- Of whole diagrams with the same boxes and pairs, the parts in a scope have the same boxes and
pairs. -/
theorem within_congr {d e : Diagram} (hd : d.IsWhole) (he : e.IsWhole) (hboxes : d.boxes = e.boxes)
    (hpairs : ∀ pair, pair ∈ d.pairs ↔ pair ∈ e.pairs) (scope : Scope) :
  (d.remap.within scope).prune.boxes = (e.remap.within scope).prune.boxes
    ∧ ∀ pair, pair ∈ (d.remap.within scope).prune.pairs
      ↔ pair ∈ (e.remap.within scope).prune.pairs
  := by
  rw [prune_within (remap_isWhole hd), prune_within (remap_isWhole he)]
  constructor
  · simp [induced, hboxes]
  · intro pair
    rw [mem_pairs_induced, mem_pairs_induced, mem_pairs_remap, mem_pairs_remap, hpairs]
    simp [hboxes]

end Diagram

/-! ### The diagrams of a statement -/

namespace Placement

variable {s : Statement} {options : Options} {d : Diagram}

/-- The diagram of the columns is whole if no two boxes share an id. -/
theorem columnDiagram_isWhole_of_nodup (h : (ofStatement s).columnDiagram options = .ok d)
    (hnodup : d.boxIds.Nodup) :
  d.IsWhole
  := by
  obtain ⟨hboxes, hlinks⟩ := columnDiagram_eq_ok_iff.mp h
  have hfits : ∀ {id : String} {place : Place}, (ofStatement s).place? id = some place →
      ∀ handle, Text.filled place.handle = some handle → handle ∈ d.handlesOf place.box := by
    intro id place hplace handle hfilled
    obtain ⟨hhandle, -⟩ := Text.filled_eq_some_iff.mp hfilled
    obtain ⟨b, hb, hid, hmem⟩ := exists_box_of_place? hboxes hplace hhandle
    rw [← hid, Diagram.handlesOf_id hnodup hb]
    exact hmem
  refine ⟨hnodup, ?_⟩
  intro l hl
  rw [← hlinks] at hl
  obtain ⟨hsource, htarget⟩ := draws_of_connects (connects_of_mem_columnLinks hl)
  rw [← mem_map_id_boxes hboxes] at hsource htarget
  rcases mem_columnLinks_cases hl with ⟨c, hc, rfl⟩ | hplain
  · obtain ⟨-, -, hx, hy, -⟩ := mem_connections.mp (List.mem_filter.mp hc).1
    exact Diagram.resolves_iff.mpr ⟨⟨hsource, htarget⟩, hfits hx, hfits hy⟩
  · exact Diagram.resolves_of_not_isAnchored hplain hsource htarget

variable (houtput : (ofStatement s).orphans ≠ [] →
    ∀ n ∈ s.nodes, n.kind.isRelation = true → n.id ≠ (ofStatement s).outputId)

include houtput

theorem tableDiagram_isWhole (h : (ofStatement s).tableDiagram options = .ok d) : d.IsWhole := by
  obtain ⟨hboxes, hlinks⟩ := tableDiagram_eq_ok_iff.mp h
  refine ⟨nodup_map_id_boxes houtput hboxes, ?_⟩
  intro l hl
  rw [← hlinks] at hl
  obtain ⟨hsource, htarget⟩ := draws_of_connects (connects_of_mem_tableLinks hl)
  apply Diagram.resolves_of_not_isAnchored (not_isAnchored_of_mem hl)
  · exact (mem_map_id_boxes hboxes).mpr hsource
  · exact (mem_map_id_boxes hboxes).mpr htarget

theorem columnDiagram_isWhole (h : (ofStatement s).columnDiagram options = .ok d) : d.IsWhole := by
  obtain ⟨hboxes, -⟩ := columnDiagram_eq_ok_iff.mp h
  apply columnDiagram_isWhole_of_nodup h
  apply nodup_map_id_boxes houtput hboxes

end Placement

namespace View

theorem refine_of_unfocused {options : Options} (hfocus : options.focus = false)
    (hselection : options.selection.labels = []) (view : View) (d : Diagram) :
  view.refine options d = (d.remap.within options.scope).prune
  := by
  simp [refine, Options.focused, hfocus, Diagram.connectedTo_eq, hselection]

/-- Whatever is collapsed or left out by the scope, the view of tables and the view of columns fail
alike, or else they have the same boxes and link the same pairs of boxes, provided that no relation
has the id of the output. -/
theorem render_pairs_eq (statements : List Statement) (options : Options)
    (houtput : (Placement.ofStatements statements).orphans ≠ [] →
      ∀ n ∈ (Statement.merge statements).nodes, n.kind.isRelation = true →
        n.id ≠ (Placement.ofStatements statements).outputId)
    (hfocus : options.focus = false) (hselection : options.selection.labels = []) :
  (∃ fault, View.table.render statements options = .error fault
      ∧ View.column.render statements options = .error fault)
    ∨ ∃ tables columns, View.table.render statements options = .ok tables
      ∧ View.column.render statements options = .ok columns
      ∧ tables.boxes = columns.boxes
      ∧ ∀ pair, pair ∈ tables.pairs ↔ pair ∈ columns.pairs
  := by
  unfold render
  cases hboxes : (Placement.ofStatements statements).boxes options with
  | error fault =>
    refine Or.inl ⟨fault, ?_, ?_⟩
    · simp [build, Placement.tableDiagram, hboxes, Except.map]
    · simp [build, Placement.columnDiagram, hboxes, Except.map]
  | ok boxes =>
    have htables : View.table.build statements options
        = .ok { boxes := boxes, links := (Placement.ofStatements statements).tableLinks } :=
      Placement.tableDiagram_eq_ok_iff.mpr ⟨hboxes, rfl⟩
    have hcolumns : View.column.build statements options
        = .ok { boxes := boxes, links := (Placement.ofStatements statements).columnLinks } :=
      Placement.columnDiagram_eq_ok_iff.mpr ⟨hboxes, rfl⟩
    rw [htables, hcolumns]
    refine Or.inr ⟨_, _, rfl, rfl, ?_⟩
    rw [refine_of_unfocused hfocus hselection, refine_of_unfocused hfocus hselection]
    apply Diagram.within_congr
    · exact Placement.tableDiagram_isWhole houtput htables
    · exact Placement.columnDiagram_isWhole houtput hcolumns
    · rfl
    · rintro ⟨source, target⟩
      exact Placement.mem_pairs_tableLinks.trans Placement.mem_pairs_columnLinks.symm

/-- Data moves from `A` and `B` to `C` and on to the output, and only `B` is in another schema. -/
def divided : List Statement :=
  [{ nodes :=
      [{ id := "A", kind := .table, label := "a", schemaName := some "s" },
       { id := "B", kind := .table, label := "b", schemaName := some "t" },
       { id := "C", kind := .view, label := "c", schemaName := some "s" },
       { id := "A.x", kind := .column, label := "x" },
       { id := "B.x", kind := .column, label := "x" },
       { id := "C.x", kind := .column, label := "x" },
       { id := "C.y", kind := .column, label := "y" },
       { id := "y", kind := .column, label := "y" }]
     edges :=
      [{ id := "1", source := "A", target := "A.x", kind := .ownership },
       { id := "2", source := "B", target := "B.x", kind := .ownership },
       { id := "3", source := "C", target := "C.x", kind := .ownership },
       { id := "4", source := "C", target := "C.y", kind := .ownership },
       { id := "5", source := "A.x", target := "C.x", kind := .dataFlow },
       { id := "6", source := "B.x", target := "C.x", kind := .dataFlow },
       { id := "7", source := "A.x", target := "C.y", kind := .derivation },
       { id := "8", source := "C.y", target := "y", kind := .dataFlow }] }]

/-- With `B` out of scope and `C` collapsed, what is left is linked alike in both views. -/
theorem render_pairs_eq_divided :
  ∃ tables columns,
    View.table.render divided { overrides := ["C"], scope := { schemas := ["s"] } } = .ok tables
    ∧ View.column.render divided { overrides := ["C"], scope := { schemas := ["s"] } } = .ok columns
    ∧ columns.boxIds = ["A", "C", "virtual:output"]
    ∧ columns.links.map Link.pair = [("A", "C"), ("C", "virtual:output")]
    ∧ tables.boxes = columns.boxes
    ∧ ∀ pair, pair ∈ tables.pairs ↔ pair ∈ columns.pairs
  := by
  obtain ⟨_, herror, -⟩ | ⟨tables, columns, htables, hcolumns, hsame⟩ :=
    render_pairs_eq divided { overrides := ["C"], scope := { schemas := ["s"] } }
      (by decide) rfl rfl
  · cases herror
  · refine ⟨tables, columns, htables, hcolumns, ?_, ?_, hsame⟩
    · cases hcolumns
      rfl
    · cases hcolumns
      rfl

end View

end Lineage
