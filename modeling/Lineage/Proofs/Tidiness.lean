import Lineage.Proofs.Passes
import Lineage.View.Render

/-!
# Rendered views are tidy

The links of a rendered view join boxes that are there and are fixed to columns that these boxes
have, and a collapsed box is joined to another one by a plain link at most. This holds whatever
the options are: redrawing the links of collapsed boxes makes them plain, taking a part of the
diagram keeps them so, and the last pass drops the links that taking a part has left loose.
-/

namespace Lineage

/-- In a tidy diagram the ends of the links are there and collapsed boxes hide their columns. -/
structure Diagram.IsTidy (d : Diagram) : Prop where
  joined : ∀ l ∈ d.links, l.source ∈ d.boxIds ∧ l.target ∈ d.boxIds
  /-- A handle is a column of the box that it is in. -/
  fixed : ∀ l ∈ d.links,
    (∀ h, Text.filled l.sourceHandle = some h → h ∈ d.handlesOf l.source)
      ∧ ∀ h, Text.filled l.targetHandle = some h → h ∈ d.handlesOf l.target
  /-- A link at a collapsed box has no handles. -/
  plain : ∀ l ∈ d.links, l.source ∈ d.collapsed ∨ l.target ∈ d.collapsed →
    Text.filled l.sourceHandle = none ∧ Text.filled l.targetHandle = none
  /-- Of two boxes of which one is collapsed, at most one link joins the first to the second. -/
  once : ((d.links.filter fun l => l.source ∈ d.collapsed ∨ l.target ∈ d.collapsed).map
    Link.pair).Nodup

namespace Diagram

/-- What is left after dropping loose links resolves in the diagram that is left. -/
theorem resolves_of_mem_prune {d : Diagram} {l : Link} (h : l ∈ d.prune.links) :
  d.prune.resolves l = true
  := by
  rw [prune_eq] at h ⊢
  exact (List.mem_filter.mp h).2

/-- A part of a redrawn diagram is tidy once no link in it is loose. -/
theorem IsPart.isTidy {d e : Diagram} (h : IsPart e d.remap)
    (hresolves : ∀ l ∈ e.links, e.resolves l = true) :
  e.IsTidy
  := by
  have hlinks : e.links.Sublist (remapLinks d.touchesCollapsed [] d.links) := by
    simpa [remap_eq] using h.links
  have htouches : ∀ l : Link, l.source ∈ e.collapsed ∨ l.target ∈ e.collapsed →
      d.touchesCollapsed l = true := by
    intro l hl
    have hcollapsed : ∀ id ∈ e.collapsed, id ∈ d.collapsed := by
      intro id hid
      simpa using h.collapsed.mem hid
    rw [touchesCollapsed_iff]
    exact hl.imp (hcollapsed _) (hcollapsed _)
  constructor
  · intro l hl
    exact (resolves_iff.mp (hresolves l hl)).1
  · intro l hl
    exact (resolves_iff.mp (hresolves l hl)).2
  · intro l hl hcollapsed
    rw [← Link.isAnchored_eq_false_iff]
    apply not_isAnchored_of_mem_remapLinks (hlinks.mem hl) (htouches l hcollapsed)
  · obtain ⟨hnodup, -⟩ := nodup_pairs_remapLinks d.touchesCollapsed_plain [] d.links
    refine List.Nodup.sublist ?_ hnodup
    apply List.Sublist.map
    apply List.Sublist.trans (hlinks.filter _)
    apply List.monotone_filter_right
    intro l hl
    apply htouches l
    simpa using hl

theorem focus_isPart (d : Diagram) (view : View) (term : String) : IsPart (d.focus view term) d := by
  unfold focus
  split
  · apply IsPart.refl
  · apply keep_isPart

end Diagram

theorem Options.focused_isPart (options : Options) (view : View) (d : Diagram) :
  (options.focused view d).IsPart d
  := by
  unfold focused
  split
  · apply Diagram.focus_isPart
  · apply Diagram.IsPart.refl

namespace View

/-- The options take a part of the diagram with the links of collapsed boxes redrawn. -/
theorem refine_isPart (view : View) (options : Options) (d : Diagram) :
  (view.refine options d).IsPart d.remap
  := by
  apply Diagram.IsPart.trans (Diagram.prune_isPart _)
  apply Diagram.IsPart.trans (Diagram.connectedTo_isPart _ _)
  apply Diagram.IsPart.trans (options.focused_isPart _ _)
  apply Diagram.within_isPart

theorem refine_isTidy (view : View) (options : Options) (d : Diagram) :
  (view.refine options d).IsTidy
  := by
  apply (view.refine_isPart options d).isTidy
  intro l hl
  apply Diagram.resolves_of_mem_prune hl

/-- Rendering fails only as building does. Otherwise it gives a tidy diagram with boxes and
pairs of the one that was built. -/
theorem render_isTidy (view : View) (statements : List Statement) (options : Options) :
  (∃ fault, view.build statements options = .error fault
      ∧ view.render statements options = .error fault)
    ∨ ∃ built drawn, view.build statements options = .ok built
      ∧ view.render statements options = .ok drawn
      ∧ drawn.IsTidy
      ∧ drawn.boxes.Sublist built.boxes
      ∧ ∀ pair ∈ drawn.pairs, pair ∈ built.pairs
  := by
  unfold render
  cases hbuild : view.build statements options with
  | error fault => exact Or.inl ⟨fault, rfl, rfl⟩
  | ok d =>
    have hpart := view.refine_isPart options d
    refine Or.inr ⟨d, view.refine options d, rfl, rfl, view.refine_isTidy options d, ?_, ?_⟩
    · simpa using hpart.boxes
    · intro pair hpair
      obtain ⟨l, hl, rfl⟩ := List.mem_map.mp hpair
      have hmem : l ∈ Diagram.remapLinks d.touchesCollapsed [] d.links := by
        simpa [Diagram.remap_eq] using hpart.links.mem hl
      apply Diagram.mem_pairs_of_mem_remapLinks hmem

end View

end Lineage
