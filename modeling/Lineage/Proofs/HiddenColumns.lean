import Lineage.Proofs.Collapsing
import Lineage.Proofs.Folding
import Lineage.Proofs.Traces

/-!
# Impact of hidden columns

A trace starts from any column of a diagram, also from one that a collapsed box hides. The links of
the box are detached from the column then, and the trace meets nothing. What it met in the open
diagram is found from the box instead: if all boxes are collapsed, the box of the column has an
impact on every box that the column had an impact on.
-/

namespace Lineage

/-- Whether a trace meets a box or one of its columns. -/
def Impact.meets (i : Impact) (b : Box) : Bool :=
  b.elements.any i.ids.contains

theorem Impact.meets_iff {i : Impact} {b : Box} :
  i.meets b = true ↔ ∃ x ∈ b.elements, x ∈ i.ids
  := by
  simp [meets]

namespace Diagram

/-! ### Traces -/

/-- Whether links lead from one element to another one, or from there to the first one, whichever way
is followed. -/
def Leads (d : Diagram) (direction : Direction) (x y : String) : Prop :=
  (direction ≠ .backward ∧ ∃ n, Reach.Walk (Reach.steps d.links) (.node x) (.node y) n)
    ∨ (direction ≠ .forward ∧ ∃ n, Reach.Walk (Reach.steps d.links) (.node y) (.node x) n)

section Trace

variable {d : Diagram} {start : String} (hstart : start ∈ d.elements) (direction : Direction)

include hstart

/-- An element can be traced, and what is met is what is connected to it. -/
theorem exists_trace :
  ∃ i, d.trace direction start = .ok i
    ∧ ∀ x, x ∈ i.ids ↔ x ∈ Reach.connected d.links direction start
  := by
  have hnames : d.names start = true := names_iff.mpr (Or.inl hstart)
  use d.impact direction start, trace_of_names hnames
  intro x
  apply mem_ids_impact

/-- A trace from an element at which no link ends meets nothing. -/
theorem trace_of_stop?_eq_none (hstop : Reach.stop? d.links start = none) :
  d.trace direction start = .ok { start := start, direction := direction, elements := [] }
  := by
  have hnames : d.names start = true := names_iff.mpr (Or.inl hstart)
  have hnone : d.met direction start = [] := by simp [met, impacted, Reach.hops, hstop]
  rw [trace_of_names hnames, impact, hnone, List.mergeSort_nil]

end Trace

/-! ### Closed diagrams -/

theorem remap_of_collapsed_eq_nil {d : Diagram} (h : d.collapsed = []) : d.remap = d := by
  rw [remap_eq, remapLinks_of_not_redraws (not_redraws_of_collapsed_eq_nil h)]

/-- If no two elements are the same, no column has the id of a box. -/
theorem id_not_mem_handles {d : Diagram} (hd : d.elements.Nodup) {a b : Box} (ha : a ∈ d.boxes)
    (hb : b ∈ d.boxes) :
  a.id ∉ b.handles
  := by
  intro hmem
  obtain rfl := eq_of_mem_elements hd ha hb List.mem_cons_self (List.mem_cons_of_mem _ hmem)
  obtain ⟨hnodup, -⟩ := List.nodup_flatMap.mp hd
  exact (List.nodup_cons.mp (hnodup a ha)).1 hmem

/-- If no link is fixed to a column, none ends at a column. -/
theorem stop?_eq_none_of_mem_handles {d : Diagram} (hd : d.IsWhole) (hnodup : d.elements.Nodup)
    (hplain : ∀ l ∈ d.links, l.isAnchored = false) (houtside : ∀ l ∈ d.links, l.id ∉ d.elements)
    {b : Box} (hb : b ∈ d.boxes) {x : String} (hx : x ∈ b.handles) :
  Reach.stop? d.links x = none
  := by
  have hid : x ∉ d.links.map Link.id := by
    intro hid
    obtain ⟨l, hl, rfl⟩ := List.mem_map.mp hid
    exact houtside l hl (handle_mem_elements hb hx)
  rw [Reach.stop?_of_not_mem hid, if_neg]
  rintro ⟨l, hl, hends⟩
  rw [Link.sourceElement_of_not_isAnchored (hplain l hl),
    Link.targetElement_of_not_isAnchored (hplain l hl)] at hends
  obtain ⟨⟨hsource, htarget⟩, -⟩ := resolves_iff.mp (hd.resolves l hl)
  have hbox : x ∈ d.boxIds := by
    rcases hends with rfl | rfl
    · exact hsource
    · exact htarget
  obtain ⟨a, ha, rfl⟩ := List.mem_map.mp hbox
  exact id_not_mem_handles hnodup ha hb hx

/-- If all links are detached, what is connected to a column is in boxes that are connected to its
box. -/
theorem Folds.exists_connected_box {detached : Link → Bool} {d e : Diagram}
    (h : Folds detached d e) (hnodup : d.elements.Nodup) (hall : ∀ l ∈ d.links, detached l = true)
    {a b : Box} (ha : a ∈ d.boxes) (hb : b ∈ d.boxes) {x z : String} (hx : x ∈ a.elements)
    (hz : z ∈ b.elements) {direction : Direction}
    (hconnected : z ∈ Reach.connected d.links direction x) :
  ∃ y ∈ b.elements, y ∈ Reach.connected e.links direction a.id
  := by
  by_cases hne : z = x
  · subst hne
    obtain rfl := eq_of_mem_elements hnodup ha hb hx hz
    exact ⟨a.id, List.mem_cons_self, Reach.mem_connected.mpr (Or.inl rfl)⟩
  · have hstart : ∃ y ∈ b.elements, y ∈ Reach.connectedToAny e.links direction [a.id] := by
      apply h.exists_connected ha hb hx hz hne hconnected
      · rintro l hl rfl
        rw [Link.departure, hall l hl, h.source l hl a ha hx]
        simp
      · rintro l hl rfl
        rw [Link.arrival, hall l hl, h.target l hl a ha hx]
        simp
    simpa [Reach.connectedToAny] using hstart

/-- If all links are detached, a column has no impact, but its box has an impact on all boxes that the
column had an impact on. -/
theorem Folds.exists_impact {detached : Link → Bool} {d e : Diagram} (h : Folds detached d e)
    (hnodup : d.elements.Nodup) (hall : ∀ l ∈ d.links, detached l = true) (he : e.IsWhole)
    (hnodup' : e.elements.Nodup) (hplain : ∀ l ∈ e.links, l.isAnchored = false) {a : Box}
    (ha : a ∈ d.boxes) {x : String} (hx : x ∈ a.handles) (direction : Direction) :
  ∃ seen hidden found, d.trace direction x = .ok seen
    ∧ e.trace direction x = .ok hidden
    ∧ e.trace direction a.id = .ok found
    ∧ (∀ y ∈ d.elements, y ∈ seen.ids ↔ d.Leads direction x y)
    ∧ hidden.elements = []
    ∧ ∀ b ∈ d.boxes, seen.meets b = true → ∃ b' ∈ e.boxes, b'.id = b.id ∧ found.meets b' = true
  := by
  have hxd := handle_mem_elements ha hx
  obtain ⟨seen, hseen, hseenIds⟩ := exists_trace hxd direction
  have hleads : ∀ y ∈ d.elements, y ∈ seen.ids ↔ d.Leads direction x y := by
    intro y hy
    rw [hseenIds]
    exact Reach.mem_connected_iff_walk (h.apart.not_mem_ids hxd) (h.apart.not_mem_ids hy)
  obtain ⟨found, hfound, hfoundIds⟩ := exists_trace (h.mem_elements ha List.mem_cons_self) direction
  have hhidden : e.trace direction x = .ok ⟨x, direction, []⟩ := by
    obtain ⟨c, hc⟩ := h.boxes a ha
    apply trace_of_stop?_eq_none (h.mem_elements ha (List.mem_cons_of_mem _ hx))
    apply stop?_eq_none_of_mem_handles he hnodup' hplain h.outside hc
    simpa using hx
  refine ⟨seen, _, found, hseen, hhidden, hfound, hleads, rfl, ?_⟩
  intro b hb hmeets
  obtain ⟨z, hz, hmem⟩ := Impact.meets_iff.mp hmeets
  obtain ⟨y, hy, hconnected⟩ := h.exists_connected_box hnodup hall ha hb
    (List.mem_cons_of_mem _ hx) hz ((hseenIds z).mp hmem)
  obtain ⟨c, hc⟩ := h.boxes b hb
  refine ⟨_, hc, b.folded_id c, Impact.meets_iff.mpr ⟨y, ?_, (hfoundIds y).mpr hconnected⟩⟩
  simpa using hy

end Diagram

namespace View

theorem refine_of_unfiltered {options : Options} (hfocus : options.focus = false)
    (hselection : options.selection.labels = []) (hscope : options.scope.isActive = false)
    (view : View) (d : Diagram) :
  view.refine options d = d.remap.prune
  := by
  rw [refine_of_unfocused hfocus hselection, Diagram.within_eq, hscope]
  rfl

theorem elements_refine_of_unfiltered {options : Options} (hfocus : options.focus = false)
    (hselection : options.selection.labels = []) (hscope : options.scope.isActive = false)
    (view : View) (d : Diagram) :
  (view.refine options d).elements = d.elements
  := by
  rw [refine_of_unfiltered hfocus hselection hscope, Diagram.prune_eq, Diagram.elements]
  simp [Diagram.elements]

theorem build_closed (statements : List Statement) :
  View.column.build statements { collapsedByDefault := true }
    = (View.column.build statements {}).map fun d =>
      d.folded (Options.collapses { collapsedByDefault := true })
  := build_collapsing {} true [] statements

section Closed

variable {statements : List Statement} {d e : Diagram}
  (hd : View.column.build statements {} = .ok d)
  (he : View.column.build statements { collapsedByDefault := true } = .ok e)

include hd in
/-- By default, nothing is collapsed. -/
theorem collapsed_of_build : d.collapsed = [] := by
  obtain ⟨hboxes, -⟩ := Placement.columnDiagram_eq_ok_iff.mp hd
  have hopen : ∀ b ∈ d.boxes, ¬b.isCollapsed = true := by
    intro b hb
    rw [Placement.isCollapsed_of_mem_boxes hboxes hb]
    simp [Options.collapses]
  rw [Diagram.collapsed, List.filter_eq_nil_iff.mpr hopen, List.map_nil]

include he in
/-- If all boxes are collapsed, every link touches a collapsed box. -/
theorem touchesCollapsed_of_build {l : Link} (hl : l ∈ e.links) : e.touchesCollapsed l = true := by
  obtain ⟨hboxes, hlinks⟩ := Placement.columnDiagram_eq_ok_iff.mp he
  rw [← hlinks] at hl
  apply Placement.touchesCollapsed_of_connects rfl rfl hboxes
  apply Placement.connects_of_mem_columnLinks hl

include hd he

theorem folded_of_build :
  e = d.folded (Options.collapses { collapsedByDefault := true })
  := by
  rw [build_closed, hd] at he
  exact (Except.ok.inj he).symm

theorem links_of_build : e.links = d.links := by
  rw [folded_of_build hd he]
  rfl

/-- Collapsing all boxes folds the diagram of the columns. -/
theorem folds_of_build (hnodup : d.elements.Nodup) (hapart : d.LinksApart)
    (houtside : ∀ l ∈ e.remap.links, l.id ∉ e.remap.elements) :
  Diagram.Folds e.touchesCollapsed d e.remap
  := by
  have hwhole : d.IsWhole :=
    Placement.columnDiagram_isWhole_of_nodup hd (Diagram.nodup_boxIds_of_nodup hnodup)
  have hremap := Diagram.remap_of_collapsed_eq_nil (collapsed_of_build hd)
  have hboxes : ∀ b ∈ d.boxes, ∃ c, b.folded c ∈ e.boxes := by
    rw [folded_of_build hd he]
    apply d.exists_folded
  have hlinks := links_of_build hd he
  have hfolds : d.FoldsTo e := by
    constructor
    · rw [collapsed_of_build hd]
      apply List.nil_subset
    · exact hnodup
    · rwa [hremap]
    · rwa [Diagram.remap_elements] at houtside
    · intro l hl m hm _ _
      rw [hremap, ← hlinks] at hl hm
      rw [touchesCollapsed_of_build he hl, touchesCollapsed_of_build he hm]
  rw [← hremap]
  exact hfolds.folds hwhole hboxes hlinks

/-- The diagram is shown as it is built if nothing is collapsed, and with its links redrawn if all
boxes are. -/
theorem refine_of_build (hnodup : d.elements.Nodup) :
  View.column.refine {} d = d
    ∧ View.column.refine { collapsedByDefault := true } e = e.remap ∧ e.IsWhole
  := by
  have hboxIds := Diagram.nodup_boxIds_of_nodup hnodup
  have hwhole := Placement.columnDiagram_isWhole_of_nodup hd hboxIds
  have hwhole' : e.IsWhole := by
    apply Placement.columnDiagram_isWhole_of_nodup he
    rwa [folded_of_build hd he, Diagram.folded_boxIds]
  refine ⟨?_, ?_, hwhole'⟩
  · rw [refine_of_unfiltered rfl rfl rfl,
      Diagram.remap_of_collapsed_eq_nil (collapsed_of_build hd), Diagram.prune_of_isWhole hwhole]
  · rw [refine_of_unfiltered rfl rfl rfl,
      Diagram.prune_of_isWhole (Diagram.remap_isWhole hwhole')]

end Closed

/-- A column of an open diagram has an impact on what links lead to. Once all boxes are collapsed, it
has none, but its box has an impact on all boxes that the column had an impact on, provided that no
id is used twice. -/
theorem trace_of_collapsed (statements : List Statement) :
  (∃ fault, View.column.render statements {} = .error fault
      ∧ View.column.render statements { collapsedByDefault := true } = .error fault)
    ∨ ∃ opened closed, View.column.render statements {} = .ok opened
      ∧ View.column.render statements { collapsedByDefault := true } = .ok closed
      ∧ (opened.elements.Nodup → opened.LinksApart → (∀ l ∈ closed.links, l.id ∉ closed.elements) →
        ∀ a ∈ opened.boxes, ∀ x ∈ a.handles, ∀ direction, ∃ seen hidden found,
          opened.trace direction x = .ok seen
          ∧ closed.trace direction x = .ok hidden
          ∧ closed.trace direction a.id = .ok found
          ∧ (∀ y ∈ opened.elements, y ∈ seen.ids ↔ opened.Leads direction x y)
          ∧ hidden.elements = []
          ∧ ∀ b ∈ opened.boxes, seen.meets b = true →
            ∃ b' ∈ closed.boxes, b'.id = b.id ∧ found.meets b' = true)
  := by
  cases hd : View.column.build statements {} with
  | error fault =>
    refine Or.inl ⟨fault, ?_, ?_⟩
    · rw [render, hd]
      rfl
    · rw [render, build_closed, hd]
      rfl
  | ok d =>
    obtain ⟨e, he⟩ : ∃ e, View.column.build statements { collapsedByDefault := true } = .ok e := by
      rw [build_closed, hd]
      exact ⟨_, rfl⟩
    refine Or.inr ⟨View.column.refine {} d, View.column.refine { collapsedByDefault := true } e, ?_⟩
    refine ⟨by rw [render, hd]; rfl, by rw [render, he]; rfl, ?_⟩
    intro hnodup
    rw [elements_refine_of_unfiltered rfl rfl rfl] at hnodup
    obtain ⟨hopened, hclosed, hwhole⟩ := refine_of_build hd he hnodup
    rw [hopened, hclosed]
    intro hapart houtside a ha x hx direction
    have hall : ∀ l ∈ e.links, e.touchesCollapsed l = true := fun l => touchesCollapsed_of_build he
    apply (folds_of_build hd he hnodup hapart houtside).exists_impact hnodup _ _ _ _ ha hx
    · rwa [← links_of_build hd he]
    · exact Diagram.remap_isWhole hwhole
    · rwa [Diagram.remap_elements, folded_of_build hd he, Diagram.folded_elements]
    · exact Diagram.not_isAnchored_of_mem_remap hall

/-- With all boxes collapsed, nothing is met from the column of `A`, but `C` is met from `A`. -/
theorem trace_of_collapsed_relayed :
  ∃ closed hidden found, View.column.render relayed { collapsedByDefault := true } = .ok closed
    ∧ closed.trace .forward "A.x" = .ok hidden
    ∧ closed.trace .forward "A" = .ok found
    ∧ hidden.elements = []
    ∧ ∃ b ∈ closed.boxes, b.id = "C" ∧ found.meets b = true
  := by
  obtain ⟨_, herror, -⟩ | ⟨opened, closed, hopened, hclosed, htrace⟩ := trace_of_collapsed relayed
  · cases herror
  · obtain ⟨hnodup, hapart, ⟨a, ha, hid, hx⟩, c, hc, hid', hx'⟩ :
        opened.elements.Nodup ∧ opened.LinksApart
          ∧ (∃ a ∈ opened.boxes, a.id = "A" ∧ "A.x" ∈ a.handles)
          ∧ ∃ c ∈ opened.boxes, c.id = "C" ∧ "C.x" ∈ c.elements := by
      cases hopened
      exact ⟨by decide, ⟨by decide, by decide⟩, by decide, by decide⟩
    have houtside : ∀ l ∈ closed.links, l.id ∉ closed.elements := by
      cases hclosed
      decide
    obtain ⟨seen, hidden, found, hseen, hhidden, hfound, hleads, hnone, hmeets⟩ :=
      htrace hnodup hapart houtside a ha "A.x" hx .forward
    have hmet : seen.meets c = true := by
      have hmem : "C.x" ∈ opened.elements := List.mem_flatMap.mpr ⟨c, hc, hx'⟩
      refine Impact.meets_iff.mpr ⟨"C.x", hx', (hleads "C.x" hmem).mpr ?_⟩
      apply (Reach.mem_connected_iff_walk
        (hapart.not_mem_ids (Diagram.handle_mem_elements ha hx)) (hapart.not_mem_ids hmem)).mp
      cases hopened
      decide
    rw [hid] at hfound
    obtain ⟨b, hb, hbid, hbmet⟩ := hmeets c hc hmet
    exact ⟨closed, hidden, found, hclosed, hhidden, hfound, hnone, b, hb, hbid.trans hid', hbmet⟩

/-- The column of `A` has an impact on `C`, but not any more once all boxes are collapsed. -/
theorem trace_hides_boxes :
  ∃ opened closed seen hidden,
    View.column.render relayed {} = .ok opened
    ∧ View.column.render relayed { collapsedByDefault := true } = .ok closed
    ∧ opened.trace .forward "A.x" = .ok seen
    ∧ closed.trace .forward "A.x" = .ok hidden
    ∧ (∃ b ∈ opened.boxes, b.id = "C" ∧ seen.meets b = true)
    ∧ ∃ b ∈ closed.boxes, b.id = "C" ∧ hidden.meets b = false
  := by
  obtain ⟨opened, hopened⟩ : ∃ d, View.column.render relayed {} = .ok d := ⟨_, rfl⟩
  obtain ⟨closed, hclosed⟩ :
    ∃ d, View.column.render relayed { collapsedByDefault := true } = .ok d := ⟨_, rfl⟩
  obtain ⟨hx, ⟨c, hc, hid, hmem⟩, hconnected⟩ :
      "A.x" ∈ opened.elements ∧ (∃ c ∈ opened.boxes, c.id = "C" ∧ "C.x" ∈ c.elements)
        ∧ "C.x" ∈ Reach.connected opened.links .forward "A.x" := by
    cases hopened
    decide
  obtain ⟨hx', hstop, c', hc', hid', hmem'⟩ :
      "A.x" ∈ closed.elements ∧ Reach.stop? closed.links "A.x" = none
        ∧ ∃ c ∈ closed.boxes, c.id = "C" ∧ "A.x" ∉ c.elements := by
    cases hclosed
    decide
  obtain ⟨seen, hseen, hids⟩ := Diagram.exists_trace hx .forward
  refine ⟨opened, closed, seen, _, hopened, hclosed, hseen,
    Diagram.trace_of_stop?_eq_none hx' .forward hstop, ⟨c, hc, hid, ?_⟩, c', hc', hid', ?_⟩
  · exact Impact.meets_iff.mpr ⟨"C.x", hmem, (hids "C.x").mpr hconnected⟩
  · rw [Bool.eq_false_iff]
    intro hmet
    obtain ⟨x, hx, hmet⟩ := Impact.meets_iff.mp hmet
    obtain rfl : x = "A.x" := by simpa [Impact.ids] using hmet
    exact hmem' hx

end View

end Lineage
