import Lineage.Proofs.Connections
import Lineage.Proofs.Passes
import Lineage.Proofs.Reach

/-!
# Collapsing all boxes

If all boxes are collapsed, the view of columns is the view of tables: the diagrams are `Alike`,
with the same boxes and the same plain links in some order. They are alike once the links of
collapsed boxes are redrawn, and the passes that follow keep them alike, since for plain links
a pass looks at the boxes and at the ids and ends of the links only.
-/

namespace Lineage

/-- The id of a link and the boxes that it joins. -/
def Link.triple (l : Link) : String × String × String :=
  (l.id, l.source, l.target)

@[simp] theorem Link.triple_snd (l : Link) : l.triple.2 = l.pair := rfl

namespace Diagram

/-- Two diagrams with the same boxes and with the same links, none of them fixed to a column. -/
structure Alike (d e : Diagram) : Prop where
  boxes : d.boxes = e.boxes
  links : ∀ x, x ∈ d.links.map Link.triple ↔ x ∈ e.links.map Link.triple
  plain_left : ∀ l ∈ d.links, l.isAnchored = false
  plain_right : ∀ l ∈ e.links, l.isAnchored = false

/-! ### Passes -/

/-- Keeping links by their triples keeps those triples. -/
theorem map_triple_filter {ls : List Link} {q : Link → Bool} {q' : String × String × String → Bool}
    (h : ∀ l ∈ ls, q l = q' l.triple) :
  (ls.filter q).map Link.triple = (ls.map Link.triple).filter q'
  := by
  rw [List.filter_map]
  congr 1
  apply List.filter_congr h

namespace Alike

variable {d e : Diagram}

/-- Diagrams stay alike if the same boxes are kept, and the links by their triples. -/
theorem filter (h : Alike d e) {boxes : List Box} {q r : Link → Bool}
    (q' : String × String × String → Bool) (hq : ∀ l ∈ d.links, q l = q' l.triple)
    (hr : ∀ l ∈ e.links, r l = q' l.triple) :
  Alike { boxes := boxes, links := d.links.filter q } { boxes := boxes, links := e.links.filter r }
  where
  boxes := rfl
  links x := by
    rw [map_triple_filter hq, map_triple_filter hr, List.mem_filter, List.mem_filter, h.links x]
  plain_left l hl := h.plain_left l (List.mem_filter.mp hl).1
  plain_right l hl := h.plain_right l (List.mem_filter.mp hl).1

theorem keep (h : Alike d e) (p : Box → Bool) : Alike (d.keep p) (e.keep p) := by
  unfold Diagram.keep
  rw [h.boxes]
  apply h.filter fun x =>
    ((e.boxes.filter p).flatMap Box.elements).contains x.2.1
      && ((e.boxes.filter p).flatMap Box.elements).contains x.2.2
  · intro l hl
    rw [Link.sourceElement_of_not_isAnchored (h.plain_left l hl),
      Link.targetElement_of_not_isAnchored (h.plain_left l hl)]
    rfl
  · intro l hl
    rw [Link.sourceElement_of_not_isAnchored (h.plain_right l hl),
      Link.targetElement_of_not_isAnchored (h.plain_right l hl)]
    rfl

theorem within (h : Alike d e) (scope : Scope) : Alike (d.within scope) (e.within scope) := by
  rw [within_eq, within_eq]
  split
  · apply h.keep
  · exact h

/-- A trace sees the same links in both. -/
theorem mem_ends (h : Alike d e) (x : String × String × String) :
  x ∈ d.links.map Reach.ends ↔ x ∈ e.links.map Reach.ends
  := by
  have hends : ∀ ls : List Link, (∀ l ∈ ls, l.isAnchored = false) →
      ls.map Reach.ends = ls.map Link.triple := by
    intro ls hls
    apply List.map_congr_left
    intro l hl
    rw [Reach.ends, Link.sourceElement_of_not_isAnchored (hls l hl),
      Link.targetElement_of_not_isAnchored (hls l hl)]
    rfl
  rw [hends _ h.plain_left, hends _ h.plain_right, h.links x]

theorem connectedTo (h : Alike d e) (s : Selection) :
  Alike (d.connectedTo s) (e.connectedTo s)
  := by
  have hselected : d.selected s = e.selected s := by rw [selected, selected, h.boxes]
  have helements : d.selectedElements s = e.selectedElements s := by
    rw [selectedElements, selectedElements, hselected, h.boxes]
  rw [connectedTo_eq, connectedTo_eq, hselected, helements]
  split
  · exact h
  · split
    · exact ⟨rfl, by simp, by simp, by simp⟩
    · -- the elements to highlight come in another order, but the same boxes have them
      have hhighlight : ∀ b : Box,
          b.elements.any (Reach.connectedToAny d.links s.direction (e.selectedElements s)
              ++ e.selected s).contains
            = b.elements.any (Reach.connectedToAny e.links s.direction (e.selectedElements s)
              ++ e.selected s).contains := by
        intro b
        rw [Bool.eq_iff_iff]
        simp [Reach.mem_connectedToAny_congr h.mem_ends]
      simp only [highlighting, hhighlight]
      apply h.keep

theorem prune (h : Alike d e) : Alike d.prune e.prune := by
  have hresolves : ∀ (f : Diagram) (l : Link), l.isAnchored = false →
      f.resolves l = (f.boxIds.contains l.triple.2.1 && f.boxIds.contains l.triple.2.2) := by
    intro f l hl
    obtain ⟨hsource, htarget⟩ := Link.isAnchored_eq_false_iff.mp hl
    simp [resolves, fits, hsource, htarget, Link.triple]
  have hids : d.boxIds = e.boxIds := by rw [boxIds, boxIds, h.boxes]
  rw [prune_eq, prune_eq, h.boxes]
  apply h.filter fun x => e.boxIds.contains x.2.1 && e.boxIds.contains x.2.2
  · intro l hl
    rw [hresolves d l (h.plain_left l hl), hids]
  · intro l hl
    rw [hresolves e l (h.plain_right l hl)]

end Alike

/-! ### Links of collapsed boxes -/

/-- What is drawn for a pair of boxes if one of them is collapsed. -/
def merged? (ls : List Link) (pair : String × String) : Option (String × String × String) :=
  (ls.find? (·.pair = pair)).map fun l => l.plain.triple

theorem merged?_append (ls ms : List Link) (pair : String × String) :
  merged? (ls ++ ms) pair = (merged? ls pair).or (merged? ms pair)
  := by
  rw [merged?, List.find?_append, Option.map_or]
  rfl

theorem merged?_firsts (ls : List Link) (pair : String × String) :
  merged? (Keyed.firsts Link.pair ls) pair = merged? ls pair
  := by
  rw [merged?, Keyed.find?_firsts]
  rfl

/-- If all links touch collapsed boxes, a pair is drawn as its first link says. -/
theorem mem_triples_remapLinks {touches : Link → Bool} {ls : List Link}
    (h : ∀ l ∈ ls, touches l = true) {x : String × String × String} :
  x ∈ (remapLinks touches [] ls).map Link.triple ↔ merged? ls x.2 = some x
  := by
  have hfind : ∀ pair, ls.find? (fun k => touches k && k.pair = pair)
      = ls.find? (·.pair = pair) := by
    intro pair
    conv_rhs => rw [← List.filter_eq_self.mpr h]
    simp [List.find?_filter]
  rw [List.mem_map, merged?, Option.map_eq_some_iff]
  constructor
  · rintro ⟨l, hl, rfl⟩
    rcases mem_remapLinks.mp hl with ⟨hl, hfalse⟩ | ⟨m, hm, -, rfl⟩
    · simp [h l hl] at hfalse
    · refine ⟨m, ?_, rfl⟩
      rw [hfind] at hm
      simpa using hm
  · rintro ⟨m, hm, rfl⟩
    refine ⟨m.plain, mem_remapLinks.mpr (Or.inr ⟨m, ?_, by simp, rfl⟩), rfl⟩
    rw [hfind]
    simpa using hm

/-- If every link touches a collapsed box, none is fixed to a column. -/
theorem not_isAnchored_of_mem_remap {d : Diagram}
    (hd : ∀ l ∈ d.links, d.touchesCollapsed l = true) :
  ∀ l ∈ d.remap.links, l.isAnchored = false
  := by
  intro l hl
  rw [remap_eq] at hl
  rcases mem_remapLinks.mp hl with ⟨hmem, hfalse⟩ | ⟨m, -, -, rfl⟩
  · simp [hd l hmem] at hfalse
  · apply Link.plain_isAnchored

/-- Diagrams that draw the same for all pairs are alike if every link touches a collapsed box. -/
theorem alike_remap {d e : Diagram} (hboxes : d.boxes = e.boxes)
    (hd : ∀ l ∈ d.links, d.touchesCollapsed l = true)
    (he : ∀ l ∈ e.links, e.touchesCollapsed l = true)
    (h : ∀ pair, merged? d.links pair = merged? e.links pair) :
  Alike d.remap e.remap
  := by
  have hplaind := not_isAnchored_of_mem_remap hd
  have hplaine := not_isAnchored_of_mem_remap he
  rw [remap_eq] at hplaind hplaine ⊢
  rw [remap_eq]
  refine ⟨hboxes, ?_, hplaind, hplaine⟩
  intro x
  rw [mem_triples_remapLinks hd, mem_triples_remapLinks he, h]

end Diagram

namespace Placement

open Diagram (merged? merged?_append merged?_firsts)

variable {p : Placement}

/-- If the plain links are named for their pairs, it does not matter which of a pair is first. -/
theorem merged?_map {f : Connection → Link} {cs : List Connection}
    (hpair : ∀ c, (f c).pair = c.pair)
    (hid : ∀ c ∈ cs, (f c).plain.id = Link.pairId c.source.box c.target.box)
    (pair : String × String) :
  merged? (cs.map f) pair
    = if pair ∈ cs.map Connection.pair then some (Link.pairId pair.1 pair.2, pair) else none
  := by
  induction cs with
  | nil => rfl
  | cons c cs ih =>
    by_cases hc : c.pair = pair
    · have hfirst : merged? ((c :: cs).map f) pair = some (f c).plain.triple := by
        simp [merged?, hpair, hc]
      have htriple : (f c).plain.triple = (Link.pairId c.source.box c.target.box, c.pair) := by
        rw [← hid c (by simp), ← hpair, ← Link.plain_pair]
        rfl
      rw [hfirst, htriple, ← hc, if_pos (by simp)]
      rfl
    · have hskip : merged? ((c :: cs).map f) pair = merged? (cs.map f) pair := by
        simp [merged?, hpair, hc]
      rw [hskip, ih fun k hk => hid k (by simp [hk])]
      simp [Ne.symm hc]

theorem merged?_relationLinks (cs : List Connection) (pair : String × String) :
  merged? (cs.map p.relationLink) pair
    = if pair ∈ cs.map Connection.pair then some (Link.pairId pair.1 pair.2, pair) else none
  := by
  apply merged?_map p.relationLink_pair
  intro c _
  rfl

theorem merged?_columnFlows (pair : String × String) :
  merged? (p.columnFlows.map p.columnLink) pair
    = if pair ∈ p.columnFlows.map Connection.pair then some (Link.pairId pair.1 pair.2, pair)
      else none
  := by
  apply merged?_map p.columnLink_pair
  intro c hc
  rw [Link.plain, if_pos (columnLink_isAnchored hc)]
  rfl

/-- What is drawn for a pair is the same in both views: the link of the pair if data moves
between its boxes, and the first join of them otherwise. -/
theorem merged?_columnLinks (p : Placement) (pair : String × String) :
  merged? p.columnLinks pair = merged? p.tableLinks pair
  := by
  rw [columnLinks, tableLinks, merged?_append, merged?_firsts, merged?_append,
    merged?_relationLinks, merged?_columnFlows]
  by_cases hdrawn : pair ∈ p.columnFlows.map Connection.pair
  · rw [if_pos hdrawn, if_pos (mem_pairs_flows.mpr (Or.inl hdrawn))]
    rfl
  · have hkept : ∀ ls : List Link,
        merged? (ls.filter fun l => !(p.columnFlows.map Connection.pair).contains l.pair) pair
          = merged? ls pair := by
      intro ls
      rw [merged?, List.find?_filter]
      congr 2
      funext l
      by_cases hl : l.pair = pair
      · simpa [hl] using hdrawn
      · simp [hl]
    rw [hkept, merged?_firsts, merged?_append, merged?_relationLinks, if_neg hdrawn, Option.none_or]
    simp only [mem_pairs_flows, hdrawn, false_or]

/-! ### Collapsed diagrams -/

theorem isCollapsed_of_mem_boxes {options : Options} {bs : List Box}
    (h : p.boxes options = .ok bs) {b : Box} (hb : b ∈ bs) :
  b.isCollapsed = options.collapses b.id
  := by
  rcases mem_boxes h hb with ⟨n, -, shown, home, -, rfl⟩ | ⟨-, rfl⟩ <;> rfl

/-- If boxes are collapsed by default, with no exception, no link is without a collapsed end. -/
theorem touchesCollapsed_of_connects {s : Statement} {options : Options}
    (hdefault : options.collapsedByDefault = true) (hoverrides : options.overrides = [])
    {d : Diagram} (hboxes : (ofStatement s).boxes options = .ok d.boxes) {l : Link}
    (hl : (ofStatement s).Connects l.source l.target) :
  d.touchesCollapsed l = true
  := by
  obtain ⟨b, hb, hid⟩ := List.mem_map.mp ((mem_map_id_boxes hboxes).mpr (draws_of_connects hl).1)
  rw [Diagram.touchesCollapsed_iff]
  apply Or.inl
  refine List.mem_map.mpr ⟨b, List.mem_filter.mpr ⟨hb, ?_⟩, hid⟩
  rw [isCollapsed_of_mem_boxes hboxes hb]
  simp [Options.collapses, hdefault, hoverrides]

/-- The two diagrams of a statement are alike with all boxes collapsed. -/
theorem alike_remap_diagrams {s : Statement} {options : Options}
    (hdefault : options.collapsedByDefault = true) (hoverrides : options.overrides = [])
    {columns tables : Diagram} (hcolumns : (ofStatement s).columnDiagram options = .ok columns)
    (htables : (ofStatement s).tableDiagram options = .ok tables) :
  columns.remap.Alike tables.remap
  := by
  obtain ⟨hboxes, hlinks⟩ := columnDiagram_eq_ok_iff.mp hcolumns
  obtain ⟨hboxes', hlinks'⟩ := tableDiagram_eq_ok_iff.mp htables
  apply Diagram.alike_remap
  · rw [hboxes] at hboxes'
    exact Except.ok.inj hboxes'
  · intro l hl
    rw [← hlinks] at hl
    apply touchesCollapsed_of_connects hdefault hoverrides hboxes (connects_of_mem_columnLinks hl)
  · intro l hl
    rw [← hlinks'] at hl
    apply touchesCollapsed_of_connects hdefault hoverrides hboxes' (connects_of_mem_tableLinks hl)
  · intro pair
    rw [← hlinks, ← hlinks', merged?_columnLinks]

end Placement

namespace View

/-- Without a focus, the options keep diagrams alike. -/
theorem refine_alike {d e : Diagram} (h : d.remap.Alike e.remap) {options : Options}
    (hfocus : options.focus = false) (view view' : View) :
  (view.refine options d).Alike (view'.refine options e)
  := by
  have hfocused : ∀ (v : View) (f : Diagram), options.focused v f = f := by
    simp [Options.focused, hfocus]
  simp only [refine, hfocused]
  apply Diagram.Alike.prune
  apply Diagram.Alike.connectedTo
  apply h.within

/-- With all boxes collapsed and no focus, the view of columns is the view of tables: they fail
alike, or else they have the same boxes, and links with the same ids and ends, none of them fixed
to a column. -/
theorem render_columns_collapsed (statements : List Statement) (options : Options)
    (hdefault : options.collapsedByDefault = true) (hoverrides : options.overrides = [])
    (hfocus : options.focus = false) :
  (∃ fault, View.column.render statements options = .error fault
      ∧ View.table.render statements options = .error fault)
    ∨ ∃ columns tables, View.column.render statements options = .ok columns
      ∧ View.table.render statements options = .ok tables
      ∧ columns.Alike tables
  := by
  unfold render
  cases hboxes : (Placement.ofStatements statements).boxes options with
  | error fault =>
    refine Or.inl ⟨fault, ?_, ?_⟩
    · simp [build, Placement.columnDiagram, hboxes, Except.map]
    · simp [build, Placement.tableDiagram, hboxes, Except.map]
  | ok boxes =>
    have hcolumns : View.column.build statements options
        = .ok { boxes := boxes, links := (Placement.ofStatements statements).columnLinks } :=
      Placement.columnDiagram_eq_ok_iff.mpr ⟨hboxes, rfl⟩
    have htables : View.table.build statements options
        = .ok { boxes := boxes, links := (Placement.ofStatements statements).tableLinks } :=
      Placement.tableDiagram_eq_ok_iff.mpr ⟨hboxes, rfl⟩
    rw [hcolumns, htables]
    refine Or.inr ⟨_, _, rfl, rfl, ?_⟩
    apply refine_alike _ hfocus
    apply Placement.alike_remap_diagrams hdefault hoverrides hcolumns htables

/-- The `Placement.detour` after a statement that moves data back from `C` to `A`. -/
def circle : List Statement :=
  [{ edges := [{ id := "0", source := "C", target := "A", kind := .dataFlow }] },
   Placement.detour]

/-- All tables of the circle are connected to `b`. The view of columns draws the link of the
relations last, the view of tables draws it first. -/
theorem render_columns_collapsed_circle :
  ∃ columns tables,
    View.column.render circle { collapsedByDefault := true, selection := { labels := ["b"] } }
      = .ok columns
    ∧ View.table.render circle { collapsedByDefault := true, selection := { labels := ["b"] } }
      = .ok tables
    ∧ columns.links.map Link.pair = [("A", "B"), ("B", "C"), ("A", "C"), ("C", "A")]
    ∧ tables.links.map Link.pair = [("C", "A"), ("A", "B"), ("B", "C"), ("A", "C")]
    ∧ columns.Alike tables
  := by
  obtain ⟨_, herror, -⟩ | ⟨columns, tables, hcolumns, htables, halike⟩ :=
    render_columns_collapsed circle
      { collapsedByDefault := true, selection := { labels := ["b"] } } rfl rfl rfl
  · cases herror
  · refine ⟨columns, tables, hcolumns, htables, ?_, ?_, halike⟩
    · cases hcolumns
      rfl
    · cases htables
      rfl

end View

end Lineage
