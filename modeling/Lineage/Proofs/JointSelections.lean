import Lineage.Proofs.Selecting

/-!
# Selecting several tables

A box is kept by a selection if something in it is connected to something in a table that the
selection names. The way from the one to the other starts from a single table and goes in a single
direction. So what several tables keep together is what each of them keeps, and what is kept going
both ways is what is kept going backward or going forward. A selection that names no table of the
diagram adds nothing, since there is no table for a way to start from.
-/

namespace Lineage

/-- Whether a box shows a table with one of some labels. -/
def Box.HasLabelIn (b : Box) (labels : List String) : Prop :=
  ∃ face, b.table? = some face ∧ face.label ∈ labels

namespace Reach

variable {links : List Link}

theorem self_mem_connected (links : List Link) (direction : Direction) (start : String) :
  start ∈ connected links direction start
  := mem_connected.mpr (Or.inl rfl)

/-- Going both ways is going each way on its own. -/
theorem mem_connected_both {start x : String} :
  x ∈ connected links .both start
    ↔ x ∈ connected links .backward start ∨ x ∈ connected links .forward start
  := by
  cases hstop : stop? links start with
  | none => simp [connected, hstop]
  | some stop =>
    simp only [connected, hstop, List.mem_cons, List.mem_append]
    tauto

end Reach

namespace Diagram

variable {d : Diagram}

/-! ### What a selection keeps -/

/-- Whether something in one box is connected in a direction to something in another. -/
def LeadsTo (d : Diagram) (direction : Direction) (a b : Box) : Prop :=
  ∃ x ∈ a.elements, ∃ y ∈ b.elements, y ∈ Reach.connected d.links direction x

theorem leadsTo_both {a b : Box} :
  d.LeadsTo .both a b ↔ d.LeadsTo .backward a b ∨ d.LeadsTo .forward a b
  := by
  simp only [LeadsTo, Reach.mem_connected_both, and_or_left, exists_or]

theorem mem_selected_iff_hasLabelIn {s : Selection} {id : String} :
  id ∈ d.selected s ↔ ∃ b ∈ d.boxes, b.HasLabelIn s.labels ∧ b.id = id
  := by
  have hlabel : ∀ b : Box, (b.table?.elim false fun face => s.labels.contains face.label) = true
      ↔ b.HasLabelIn s.labels := by
    intro b
    cases hface : b.table? <;> simp [Box.HasLabelIn, hface]
  simp only [mem_selected, hlabel]

/-- Of what a selection shows, all is connected to something in a box that has the id of a table
that the selection names. -/
theorem mem_connectedElements_iff {s : Selection} {x : String} :
  x ∈ d.connectedElements s
    ↔ ∃ a ∈ d.boxes, a.id ∈ d.selected s
      ∧ ∃ start ∈ a.elements, x ∈ Reach.connected d.links s.direction start
  := by
  rw [connectedElements, List.mem_append, Reach.connectedToAny, List.mem_flatMap]
  constructor
  · rintro (⟨start, hstart, hx⟩ | hx)
    · obtain ⟨a, ha, hselected, hstart⟩ := mem_selectedElements.mp hstart
      exact ⟨a, ha, hselected, start, hstart, hx⟩
    · obtain ⟨a, ha, -, rfl⟩ := mem_selected.mp hx
      exact ⟨a, ha, hx, a.id, List.mem_cons_self, Reach.self_mem_connected _ _ _⟩
  · rintro ⟨a, ha, hselected, start, hstart, hx⟩
    exact Or.inl ⟨start, mem_selectedElements.mpr ⟨a, ha, hselected, hstart⟩, hx⟩

theorem mem_boxes_highlighting {xs : List String} {b : Box} :
  b ∈ (d.highlighting xs).boxes ↔ b ∈ d.boxes ∧ ∃ x ∈ b.elements, x ∈ xs
  := by
  simp [highlighting, keep]

/-- A selection keeps the boxes that its tables lead to. Boxes that share an id with one of these
tables count as the table. -/
theorem mem_boxes_connectedTo {s : Selection} (hlabels : s.labels ≠ []) {b : Box} :
  b ∈ (d.connectedTo s).boxes
    ↔ b ∈ d.boxes ∧ ∃ table ∈ d.boxes, table.HasLabelIn s.labels
      ∧ ∃ a ∈ d.boxes, a.id = table.id ∧ d.LeadsTo s.direction a b
  := by
  have hled : (b ∈ d.boxes ∧ ∃ x ∈ b.elements, x ∈ d.connectedElements s)
      ↔ b ∈ d.boxes ∧ ∃ table ∈ d.boxes, table.HasLabelIn s.labels
        ∧ ∃ a ∈ d.boxes, a.id = table.id ∧ d.LeadsTo s.direction a b := by
    simp only [mem_connectedElements_iff, mem_selected_iff_hasLabelIn, LeadsTo]
    grind
  have hlabels' : ¬s.labels.isEmpty = true := by simpa using hlabels
  rw [← hled]
  by_cases hnamed : (d.selected s).isEmpty = true
  · -- nothing is kept, and there is no table to start from either
    have hnone : d.selected s = [] := by simpa using hnamed
    rw [connectedTo_eq, if_neg hlabels', if_pos hnamed]
    simp [mem_connectedElements_iff, hnone]
  · rw [connectedTo_eq_highlighting hlabels' hnamed, mem_boxes_highlighting]

/-! ### Several tables -/

/-- A box is kept by the labels of two selections together exactly if one of the selections keeps it
on its own, and it is kept going both ways exactly if it is kept going one of them. What keeps it is
a table of one of the labels that leads to it. -/
theorem connectedTo_joint (d : Diagram) (direction : Direction) {labels labels' joint : List String}
    (hlabels : labels ≠ []) (hlabels' : labels' ≠ [])
    (hjoint : ∀ label, label ∈ joint ↔ label ∈ labels ∨ label ∈ labels') (b : Box) :
  (b ∈ (d.connectedTo { labels := joint, direction := direction }).boxes
    ↔ b ∈ (d.connectedTo { labels := labels, direction := direction }).boxes
      ∨ b ∈ (d.connectedTo { labels := labels', direction := direction }).boxes)
  ∧ (b ∈ (d.connectedTo { labels := labels, direction := .both }).boxes
    ↔ b ∈ (d.connectedTo { labels := labels, direction := .backward }).boxes
      ∨ b ∈ (d.connectedTo { labels := labels, direction := .forward }).boxes)
  ∧ (b ∈ (d.connectedTo { labels := labels, direction := direction }).boxes
    ↔ b ∈ d.boxes ∧ ∃ table ∈ d.boxes, table.HasLabelIn labels
      ∧ ∃ a ∈ d.boxes, a.id = table.id ∧ d.LeadsTo direction a b)
  := by
  have hne : joint ≠ [] := by
    obtain ⟨label, hlabel⟩ := List.exists_mem_of_ne_nil labels hlabels
    exact List.ne_nil_of_mem ((hjoint label).mpr (Or.inl hlabel))
  have hhas : ∀ table : Box, table.HasLabelIn joint
      ↔ table.HasLabelIn labels ∨ table.HasLabelIn labels' := by
    intro table
    simp only [Box.HasLabelIn, hjoint, and_or_left, exists_or]
  refine ⟨?_, ?_, mem_boxes_connectedTo hlabels⟩
  · rw [mem_boxes_connectedTo hne, mem_boxes_connectedTo hlabels, mem_boxes_connectedTo hlabels']
    simp only [hhas, or_and_right, and_or_left, exists_or]
  · rw [mem_boxes_connectedTo hlabels, mem_boxes_connectedTo hlabels, mem_boxes_connectedTo hlabels]
    simp only [leadsTo_both, and_or_left, exists_or]

/-- Two boxes share the id `A` and two boxes share the label `t`. A link leads from `A` to `C`,
another one from `D` to the second of the boxes `A`. -/
def namesakes : Diagram where
  boxes :=
    [{ id := "A", kind := .table
       face := .table
        { label := "t", shape := .table, columns := [{ id := "A.x", name := "x" }] } },
     { id := "A", kind := .table
       face := .table
        { label := "u", shape := .view, columns := [{ id := "A.y", name := "y" }] } },
     { id := "B", kind := .table, face := .table { label := "t", shape := .cte } },
     { id := "C", kind := .table
       face := .table
        { label := "c", shape := .table, columns := [{ id := "C.x", name := "x" }] } },
     { id := "D", kind := .table, face := .table { label := "d", shape := .table } }]
  links :=
    [{ id := "1", source := "A", target := "C", sourceHandle := some "A.x"
       targetHandle := some "C.x" },
     { id := "2", source := "D", target := "A", targetHandle := some "A.y" }]

/-- No box has the label `z`, so that it adds nothing to what `t` keeps. -/
theorem connectedTo_joint_namesakes :
  (∀ label, label ∈ ["t", "z"] ↔ label ∈ ["z"] ∨ label ∈ ["t"])
  ∧ (namesakes.connectedTo { labels := ["z"], direction := .forward }).boxIds = []
  ∧ (namesakes.connectedTo { labels := ["t"], direction := .forward }).boxIds = ["A", "A", "B", "C"]
  ∧ (namesakes.connectedTo { labels := ["t"], direction := .backward }).boxIds
    = ["A", "A", "B", "D"]
  ∧ ∀ b, (b ∈ (namesakes.connectedTo { labels := ["t", "z"], direction := .forward }).boxes
    ↔ b ∈ (namesakes.connectedTo { labels := ["z"], direction := .forward }).boxes
      ∨ b ∈ (namesakes.connectedTo { labels := ["t"], direction := .forward }).boxes)
  := by
  have hjoint : ∀ label, label ∈ ["t", "z"] ↔ label ∈ ["z"] ∨ label ∈ ["t"] := by
    intro label
    simp [or_comm]
  refine ⟨hjoint, by decide, by decide, by decide, ?_⟩
  intro b
  exact (connectedTo_joint namesakes .forward (by decide) (by decide) hjoint b).1

end Diagram

end Lineage
