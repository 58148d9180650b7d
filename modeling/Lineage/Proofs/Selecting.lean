import Lineage.Proofs.Filters

/-!
# Selecting tables again

A selection keeps the boxes that are connected to the tables it names. Every link on the way to
what is connected has both its ends connected, so it is kept together with the boxes at its ends.
Thus all that is connected to a selection stays connected in the part that is kept, and selecting
the same tables again keeps all of that part.
-/

namespace Lineage

/-! ### Links on the way -/

namespace Reach

variable {links links' : List Link} {direction : Direction}

/-- A link that is reached from an element has both its ends reached. -/
theorem Walk.exists_ends (hids : (links.map Link.id).Nodup) {l : Link} (hl : l ∈ links) {x : String}
    {n : Nat} (h : Walk (stepsIn direction links) (.node x) (.link l.id) n) :
  (∃ m, Walk (stepsIn direction links) (.node x) (.node l.sourceElement) m)
    ∧ ∃ m, Walk (stepsIn direction links) (.node x) (.node l.targetElement) m
  := by
  have hfar : ∃ m, Walk (stepsIn direction links) (.node x) (.node (far direction l)) m := by
    use n + 1
    apply h.step
    exact mem_stepsIn_iff_ends.mpr ⟨l, hl, Or.inr ⟨rfl, rfl⟩⟩
  have hnear : ∃ m, Walk (stepsIn direction links) (.node x) (.node (near direction l)) m := by
    cases h with
    | @step _ _ m hwalk hstep =>
      use m
      rwa [← eq_near_of_step hids hl hstep]
  cases direction with
  | backward => exact ⟨hfar, hnear⟩
  | forward => exact ⟨hnear, hfar⟩
  | both => exact ⟨hnear, hfar⟩

/-- A walk from an element can be taken over fewer links, if none is missing whose ends are both
reached. -/
theorem Walk.of_ends (hids : (links.map Link.id).Nodup) {x : String} {t : Stop} {n : Nat}
    (h : Walk (stepsIn direction links) (.node x) t n)
    (hlinks : ∀ l ∈ links,
      (∃ m, Walk (stepsIn direction links) (.node x) (.node l.sourceElement) m) →
      (∃ m, Walk (stepsIn direction links) (.node x) (.node l.targetElement) m) → l ∈ links') :
  Walk (stepsIn direction links') (.node x) t n
  := by
  apply h.restrict
  intro u v m hwalk hstep
  obtain ⟨l, hl, hends⟩ := mem_stepsIn_iff_ends.mp hstep
  have hreached : ∃ k, Walk (stepsIn direction links) (.node x) (.link l.id) k := by
    rcases hends with ⟨-, rfl⟩ | ⟨rfl, -⟩
    · exact ⟨m + 1, hwalk.step hstep⟩
    · exact ⟨m, hwalk⟩
  obtain ⟨k, hk⟩ := hreached
  obtain ⟨hsource, htarget⟩ := hk.exists_ends hids hl
  exact mem_stepsIn_iff_ends.mpr ⟨l, hlinks l hl hsource htarget, hends⟩

/-- What is connected to an element stays connected to it if links are dropped, as long as none of
them has both its ends connected to the element. -/
theorem mem_connected_of_ends (hids : (links.map Link.id).Nodup) (hsubset : links' ⊆ links)
    (hends : ∀ l ∈ links,
      l.sourceElement ∉ links.map Link.id ∧ l.targetElement ∉ links.map Link.id)
    {a b : String} (ha : a ∉ links.map Link.id) (hb : b ∉ links.map Link.id)
    (hlinks : ∀ l ∈ links, l.sourceElement ∈ connected links direction a →
      l.targetElement ∈ connected links direction a → l ∈ links')
    (h : b ∈ connected links direction a) :
  b ∈ connected links' direction a
  := by
  have hid : ∀ {x : String}, x ∉ links.map Link.id → x ∉ links'.map Link.id := by
    intro x hx hx'
    exact hx (List.map_subset Link.id hsubset hx')
  rw [mem_connected_iff_walk (hid ha) (hid hb)]
  rcases (mem_connected_iff_walk ha hb).mp h with ⟨hdirection, n, hwalk⟩ | ⟨hdirection, n, hwalk⟩
  · have hahead : Walk (stepsIn .forward links) (.node a) (.node b) n := hwalk
    refine Or.inl ⟨hdirection, n, hahead.of_ends hids ?_⟩
    intro l hl hsource htarget
    obtain ⟨hs, ht⟩ := hends l hl
    apply hlinks l hl
    · exact (mem_connected_iff_walk ha hs).mpr (Or.inl ⟨hdirection, hsource⟩)
    · exact (mem_connected_iff_walk ha ht).mpr (Or.inl ⟨hdirection, htarget⟩)
  · have hback : Walk (stepsIn .backward links) (.node a) (.node b) n := walk_swap.mpr hwalk
    refine Or.inr ⟨hdirection, n, walk_swap.mp (hback.of_ends hids ?_)⟩
    rintro l hl ⟨i, hsource⟩ ⟨j, htarget⟩
    obtain ⟨hs, ht⟩ := hends l hl
    apply hlinks l hl
    · exact (mem_connected_iff_walk ha hs).mpr (Or.inr ⟨hdirection, i, walk_swap.mp hsource⟩)
    · exact (mem_connected_iff_walk ha ht).mpr (Or.inr ⟨hdirection, j, walk_swap.mp htarget⟩)

end Reach

namespace Diagram

/-! ### Selections in a part -/

/-- What a selection shows: the tables that it names and all that is connected to their elements. -/
def connectedElements (d : Diagram) (s : Selection) : List String :=
  Reach.connectedToAny d.links s.direction (d.selectedElements s) ++ d.selected s

theorem connectedTo_eq_highlighting {d : Diagram} {s : Selection}
    (hlabels : ¬s.labels.isEmpty = true) (hnamed : ¬(d.selected s).isEmpty = true) :
  d.connectedTo s = d.highlighting (d.connectedElements s)
  := by
  rw [connectedTo_eq, if_neg hlabels, if_neg hnamed]
  rfl

section Kept

variable {d : Diagram} {p : Box → Bool} {s : Selection}
  (hp : ∀ b ∈ d.boxes, b.id ∈ d.selected s → p b = true)

include hp

/-- If the tables that a selection names are kept, it names the same tables in the part. -/
theorem selected_keep : (d.keep p).selected s = d.selected s := by
  unfold selected keep
  rw [List.filter_filter]
  congr 1
  apply List.filter_congr
  intro b hb
  rw [Bool.eq_iff_iff, Bool.and_eq_true]
  constructor
  · exact And.left
  · intro hlabel
    exact ⟨hlabel, hp b hb (mem_selected.mpr ⟨b, hb, hlabel, rfl⟩)⟩

theorem mem_selectedElements_keep {x : String} :
  x ∈ (d.keep p).selectedElements s ↔ x ∈ d.selectedElements s
  := by
  rw [mem_selectedElements, mem_selectedElements, selected_keep hp]
  constructor
  · rintro ⟨b, hb, hselected, hx⟩
    exact ⟨b, (d.keep_isPart p).boxes.mem hb, hselected, hx⟩
  · rintro ⟨b, hb, hselected, hx⟩
    exact ⟨b, List.mem_filter.mpr ⟨hb, hp b hb hselected⟩, hselected, hx⟩

end Kept

/-- An element that is to be shown is in the part that is shown. -/
theorem mem_elements_highlighting {d : Diagram} {xs : List String} {x : String}
    (hx : x ∈ d.elements) (hxs : x ∈ xs) :
  x ∈ (d.highlighting xs).elements
  := by
  obtain ⟨b, hb, hxb⟩ := List.mem_flatMap.mp hx
  apply List.mem_flatMap.mpr
  use b
  refine ⟨List.mem_filter.mpr ⟨hb, ?_⟩, hxb⟩
  rw [List.any_eq_true]
  exact ⟨x, hxb, by simpa using hxs⟩

/-! ### Selecting again -/

section Again

variable {d : Diagram} (s : Selection)

/-- The tables that a selection names are shown. -/
theorem any_connectedElements_of_selected {b : Box} (hb : b.id ∈ d.selected s) :
  b.elements.any (d.connectedElements s).contains = true
  := by
  rw [List.any_eq_true]
  use b.id, List.mem_cons_self
  rw [List.contains_iff_mem]
  exact List.mem_append_right _ hb

variable (hends : ∀ l ∈ d.links, l.sourceElement ∈ d.elements ∧ l.targetElement ∈ d.elements)
  (hapart : d.LinksApart)

include hends hapart

/-- What a selection shows is shown again when the same tables are selected in that part. -/
theorem mem_connectedElements_again {x : String} (hx : x ∈ d.elements)
    (hshown : x ∈ d.connectedElements s) :
  x ∈ (d.highlighting (d.connectedElements s)).connectedElements s
  := by
  have hselected : ∀ b ∈ d.boxes, b.id ∈ d.selected s →
      b.elements.any (d.connectedElements s).contains = true := by
    intro b _ hb
    apply any_connectedElements_of_selected s hb
  rcases List.mem_append.mp hshown with hconnected | hnamed
  · apply List.mem_append_left
    obtain ⟨a, ha, hconnected⟩ := List.mem_flatMap.mp hconnected
    refine List.mem_flatMap.mpr ⟨a, (mem_selectedElements_keep hselected).mpr ha, ?_⟩
    apply Reach.mem_connected_of_ends hapart.nodup (keep_isPart d _).links.subset _
      (hapart.not_mem_ids (d.selectedElements_subset s ha)) (hapart.not_mem_ids hx) _ hconnected
    · intro l hl
      obtain ⟨hsource, htarget⟩ := hends l hl
      exact ⟨hapart.not_mem_ids hsource, hapart.not_mem_ids htarget⟩
    · -- both ends of such a link are shown, and they are in boxes, so the link is kept
      intro l hl hs ht
      obtain ⟨hsource, htarget⟩ := hends l hl
      refine mem_links_keep.mpr ⟨hl, mem_elements_highlighting hsource ?_,
        mem_elements_highlighting htarget ?_⟩
      · exact List.mem_append_left _ (List.mem_flatMap.mpr ⟨a, ha, hs⟩)
      · exact List.mem_append_left _ (List.mem_flatMap.mpr ⟨a, ha, ht⟩)
  · apply List.mem_append_right
    rwa [highlighting, selected_keep hselected]

end Again

/-- Selecting the same tables again keeps all that was kept, if the links end at elements of the
diagram and have ids of their own. -/
theorem connectedTo_connectedTo {d : Diagram}
    (hends : ∀ l ∈ d.links, l.sourceElement ∈ d.elements ∧ l.targetElement ∈ d.elements)
    (hapart : d.LinksApart) (s : Selection) :
  (d.connectedTo s).connectedTo s = d.connectedTo s
  := by
  by_cases hlabels : s.labels.isEmpty = true
  · rw [d.connectedTo_eq, if_pos hlabels, connectedTo_eq, if_pos hlabels]
  · by_cases hnamed : (d.selected s).isEmpty = true
    · rw [d.connectedTo_eq, if_neg hlabels, if_pos hnamed, connectedTo_eq, if_neg hlabels]
      rfl
    · have hselected : (d.highlighting (d.connectedElements s)).selected s = d.selected s := by
        apply selected_keep
        intro b _ hb
        apply any_connectedElements_of_selected s hb
      rw [connectedTo_eq_highlighting hlabels hnamed,
        connectedTo_eq_highlighting hlabels (by rwa [hselected])]
      apply keep_keep_of_forall
      intro b hb hkept
      rw [List.any_eq_true] at hkept ⊢
      obtain ⟨x, hx, hshown⟩ := hkept
      use x, hx
      rw [List.contains_iff_mem] at hshown ⊢
      apply mem_connectedElements_again s hends hapart _ hshown
      exact List.mem_flatMap.mpr ⟨b, hb, hx⟩

/-- Links lead from `A` over a column of `B` to `C` and back to `A`, from `D` to that column, and
from another column of `B` to `D`. -/
def roundabout : Diagram where
  boxes :=
    [{ id := "A", kind := .table
       face := .table { label := "a", shape := .table, columns := [{ id := "A.x", name := "x" }] } },
     { id := "B", kind := .table
       face := .table { label := "b", shape := .table
                        columns := [{ id := "B.x", name := "x" }, { id := "B.y", name := "y" }] } },
     { id := "C", kind := .table, face := .table { label := "c", shape := .view } },
     { id := "D", kind := .table
       face := .table { label := "d", shape := .table, columns := [{ id := "D.x", name := "x" }] } }]
  links :=
    [{ id := "1", source := "A", target := "B", sourceHandle := some "A.x"
       targetHandle := some "B.x" },
     { id := "2", source := "B", target := "C", sourceHandle := some "B.x" },
     { id := "3", source := "C", target := "A" },
     { id := "4", source := "D", target := "B", sourceHandle := some "D.x"
       targetHandle := some "B.x" },
     { id := "5", source := "B", target := "D", sourceHandle := some "B.y"
       targetHandle := some "D.x" }]

/-- Going forward from `a`, the links to and from `D` are dropped with `D`. -/
theorem connectedTo_connectedTo_roundabout :
  (∀ l ∈ roundabout.links,
      l.sourceElement ∈ roundabout.elements ∧ l.targetElement ∈ roundabout.elements)
  ∧ roundabout.LinksApart
  ∧ (roundabout.connectedTo { labels := ["a"], direction := .forward }).boxIds = ["A", "B", "C"]
  ∧ (roundabout.connectedTo { labels := ["a"], direction := .forward }).links.map Link.id
    = ["1", "2", "3"]
  ∧ (roundabout.connectedTo { labels := ["a"], direction := .forward }).connectedTo
      { labels := ["a"], direction := .forward }
    = roundabout.connectedTo { labels := ["a"], direction := .forward }
  := by
  have hends : ∀ l ∈ roundabout.links,
      l.sourceElement ∈ roundabout.elements ∧ l.targetElement ∈ roundabout.elements := by
    decide
  have hapart : roundabout.LinksApart := ⟨by decide, by decide⟩
  refine ⟨hends, hapart, by decide, by decide, ?_⟩
  exact connectedTo_connectedTo hends hapart { labels := ["a"], direction := .forward }

end Diagram

end Lineage
