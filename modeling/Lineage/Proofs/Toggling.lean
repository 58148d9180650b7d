import Lineage.Proofs.Collapsing
import Lineage.Proofs.Folding
import Mathlib.Algebra.Ring.Parity

/-!
# Toggling boxes

Toggling a box takes back that it is an exception from the default, or makes it one, so a box is
flipped once for each time that it is toggled, and it only matters how often that is up to an even
number. The overrides are only looked at to tell whether a box is collapsed. In the two views of a
statement a toggle thus flips the boxes of its id and leaves the diagram as it is otherwise; the
views of scripts have no boxes that can be collapsed.
-/

namespace Lineage

/-! ### Overrides -/

theorem mem_toggle {overrides : List String} {id x : String} :
  x ∈ toggle overrides id ↔ if x = id then x ∉ overrides else x ∈ overrides
  := by
  unfold toggle
  by_cases hid : id ∈ overrides <;> by_cases hx : x = id <;> simp [hid, hx]

namespace Options

/-- The options after a box is toggled. -/
def toggled (o : Options) (id : String) : Options :=
  { o with overrides := toggle o.overrides id }

/-- The options after some boxes are toggled, one after the other. -/
def toggledAll (o : Options) (ids : List String) : Options :=
  ids.foldl toggled o

/-- A toggle flips the box of its id, and no other one. -/
theorem collapses_toggled (o : Options) (id x : String) :
  (o.toggled id).collapses x = if x = id then !o.collapses x else o.collapses x
  := by
  have hmem : (o.toggled id).overrides.contains x
      = if x = id then !o.overrides.contains x else o.overrides.contains x := by
    rw [Bool.eq_iff_iff, List.contains_iff_mem, toggled, mem_toggle]
    split <;> simp
  unfold collapses
  rw [hmem]
  split
  · simp [toggled]
  · rfl

/-- Toggles flip a box once for each time that they name it. -/
theorem collapses_toggledAll (o : Options) (ids : List String) (x : String) :
  (o.toggledAll ids).collapses x = not^[ids.count x] (o.collapses x)
  := by
  induction ids generalizing o with
  | nil => rfl
  | cons id ids ih =>
    have hrest : o.toggledAll (id :: ids) = (o.toggled id).toggledAll ids := rfl
    rw [hrest, ih, collapses_toggled, List.count_cons]
    by_cases hx : x = id
    · simp [hx, Function.iterate_succ_apply]
    · simp [hx, Ne.symm hx]

/-- Toggles change nothing but the overrides. -/
theorem toggledAll_eq_collapsing (o : Options) (ids : List String) :
  o.toggledAll ids = o.collapsing o.collapsedByDefault (o.toggledAll ids).overrides
  := by
  induction ids generalizing o with
  | nil => rfl
  | cons id ids ih => exact ih (o.toggled id)

/-- The exceptions are the boxes that are not as the default says. -/
theorem mem_overrides_iff {o : Options} {id : String} :
  id ∈ o.overrides ↔ o.collapses id ≠ o.collapsedByDefault
  := by
  cases hmem : o.overrides.contains id <;> simp_all [collapses]

/-- Whether a box is collapsed after some toggles depends on how often it is toggled, up to an even
number. -/
theorem collapses_toggledAll_congr (o : Options) {ids ids' : List String} {id : String}
    (h : Even (ids.count id) ↔ Even (ids'.count id)) :
  (o.toggledAll ids).collapses id = (o.toggledAll ids').collapses id
  := by
  rw [collapses_toggledAll, collapses_toggledAll]
  by_cases heven : Even (ids.count id)
  · rw [Bool.involutive_not.iterate_even heven, Bool.involutive_not.iterate_even (h.mp heven)]
  · have hodd := Nat.not_even_iff_odd.mp heven
    have hodd' := Nat.not_even_iff_odd.mp (mt h.mpr heven)
    rw [Bool.involutive_not.iterate_odd hodd, Bool.involutive_not.iterate_odd hodd']

end Options

/-! ### Boxes -/

/-- The box with its columns shown if they were hidden, and hidden if they were shown, provided that
it has a given id. -/
def Box.toggled (b : Box) (id : String) : Box :=
  if b.id = id then b.folded (!b.isCollapsed) else b

/-- The diagram with the boxes of an id flipped. -/
def Diagram.toggled (d : Diagram) (id : String) : Diagram :=
  { d with boxes := d.boxes.map (·.toggled id) }

theorem Box.folded_isCollapsed (b : Box) : b.folded b.isCollapsed = b := by
  obtain ⟨id, kind, face⟩ := b
  cases face <;> rfl

/-- The boxes of a statement after a toggle. -/
theorem Placement.boxes_toggled (p : Placement) (o : Options) (id : String) :
  p.boxes (o.toggled id) = (p.boxes o).map (List.map (·.toggled id))
  := by
  have hboxes := p.boxes_collapsing o o.collapsedByDefault (toggle o.overrides id)
  change p.boxes (o.toggled id)
    = (p.boxes o).map (List.map fun b => b.folded ((o.toggled id).collapses b.id)) at hboxes
  rw [hboxes]
  cases hbs : p.boxes o with
  | error fault => rfl
  | ok bs =>
    simp only [Except.map, Except.ok.injEq]
    apply List.map_congr_left
    intro b hb
    rw [Box.toggled, o.collapses_toggled, ← isCollapsed_of_mem_boxes hbs hb]
    split
    · rfl
    · apply b.folded_isCollapsed

/-! ### Views -/

namespace View

/-- Whether the boxes of a view can be collapsed. -/
def canCollapse : View → Bool
  | .table | .column => true
  | .script | .hybrid => false

/-- A toggle flips the boxes of its id and changes nothing else. -/
theorem build_toggled (view : View) (statements : List Statement) (o : Options) (id : String) :
  view.build statements (o.toggled id)
    = if view.canCollapse then (view.build statements o).map (·.toggled id)
      else view.build statements o
  := by
  cases view with
  | table =>
    rw [build, build, Placement.tableDiagram, Placement.tableDiagram, Placement.boxes_toggled]
    cases (Placement.ofStatements statements).boxes o <;> rfl
  | column =>
    rw [build, build, Placement.columnDiagram, Placement.columnDiagram, Placement.boxes_toggled]
    cases (Placement.ofStatements statements).boxes o <;> rfl
  | script => rfl
  | hybrid => rfl

/-- Which overrides there are only matters to which boxes are collapsed. -/
theorem build_congr_collapses (view : View) (statements : List Statement) (o : Options)
    {byDefault byDefault' : Bool} {overrides overrides' : List String}
    (h : ∀ id, (o.collapsing byDefault overrides).collapses id
      = (o.collapsing byDefault' overrides').collapses id) :
  view.build statements (o.collapsing byDefault overrides)
    = view.build statements (o.collapsing byDefault' overrides')
  := by
  cases view with
  | table => simp only [build, Placement.tableDiagram, Placement.boxes_collapsing, h]
  | column => simp only [build, Placement.columnDiagram, Placement.boxes_collapsing, h]
  | script => rfl
  | hybrid => rfl

theorem render_congr_collapses (view : View) (statements : List Statement) (o : Options)
    {byDefault byDefault' : Bool} {overrides overrides' : List String}
    (h : ∀ id, (o.collapsing byDefault overrides).collapses id
      = (o.collapsing byDefault' overrides').collapses id) :
  view.render statements (o.collapsing byDefault overrides)
    = view.render statements (o.collapsing byDefault' overrides')
  := by
  rw [render, render, build_congr_collapses view statements o h]
  rfl

/-- In a view that can be collapsed, a box is shown as the options say. -/
theorem isCollapsed_of_mem_build {view : View} (hview : view.canCollapse = true)
    {statements : List Statement} {o : Options} {d : Diagram}
    (hd : view.build statements o = .ok d) {b : Box} (hb : b ∈ d.boxes) :
  b.isCollapsed = o.collapses b.id
  := by
  cases view with
  | table => exact Placement.isCollapsed_of_mem_boxes (Placement.tableDiagram_eq_ok_iff.mp hd).1 hb
  | column =>
    exact Placement.isCollapsed_of_mem_boxes (Placement.columnDiagram_eq_ok_iff.mp hd).1 hb
  | script => cases hview
  | hybrid => cases hview

/-- After some toggles a box is collapsed as it was before, flipped once for each time that it is
toggled. If two runs of toggles name every box equally often, up to an even number, they leave the
same overrides and the same views. A single toggle flips the boxes of its id in a view that can be
collapsed and changes nothing else, and nothing at all in the other views. -/
theorem toggles_flip_boxes (o : Options) :
  (∀ ids id, (o.toggledAll ids).collapses id = not^[ids.count id] (o.collapses id))
  ∧ (∀ (view : View) statements ids d, view.canCollapse = true →
      view.build statements (o.toggledAll ids) = .ok d →
      ∀ b ∈ d.boxes, b.isCollapsed = not^[ids.count b.id] (o.collapses b.id))
  ∧ (∀ ids ids', (∀ id, Even (ids.count id) ↔ Even (ids'.count id)) →
      (∀ id, id ∈ (o.toggledAll ids).overrides ↔ id ∈ (o.toggledAll ids').overrides)
      ∧ ∀ (view : View) statements,
        view.render statements (o.toggledAll ids) = view.render statements (o.toggledAll ids'))
  ∧ ∀ (view : View) statements id,
    view.build statements (o.toggled id)
      = if view.canCollapse then (view.build statements o).map (·.toggled id)
        else view.build statements o
  := by
  refine ⟨o.collapses_toggledAll, ?_, ?_, ?_⟩
  · intro view statements ids d hview hd b hb
    rw [isCollapsed_of_mem_build hview hd hb, Options.collapses_toggledAll]
  · intro ids ids' hparity
    have hcollapses : ∀ id, (o.toggledAll ids).collapses id = (o.toggledAll ids').collapses id := by
      intro id
      apply o.collapses_toggledAll_congr (hparity id)
    rw [o.toggledAll_eq_collapsing ids, o.toggledAll_eq_collapsing ids'] at hcollapses ⊢
    constructor
    · intro id
      rw [Options.mem_overrides_iff, Options.mem_overrides_iff, hcollapses id]
      rfl
    · intro view statements
      apply render_congr_collapses view statements o hcollapses
  · intro view statements id
    apply build_toggled

/-- With `B` toggled three times or once, the overrides are listed in another order, but the view is
the same. -/
theorem toggles_flip_boxes_relayed :
  (∀ id, Even (["B", "A", "B", "B"].count id) ↔ Even (["B", "A"].count id))
  ∧ (Options.toggledAll { overrides := ["C"] } ["B", "A", "B", "B"]).overrides = ["C", "A", "B"]
  ∧ (Options.toggledAll { overrides := ["C"] } ["B", "A"]).overrides = ["C", "B", "A"]
  ∧ View.column.render relayed (Options.toggledAll { overrides := ["C"] } ["B", "A", "B", "B"])
    = View.column.render relayed (Options.toggledAll { overrides := ["C"] } ["B", "A"])
  ∧ (View.column.build relayed (Options.toggledAll { overrides := ["C"] } ["B", "A"])).map
      Diagram.collapsed = .ok ["A", "B", "C"]
  := by
  have hparity : ∀ id, Even (["B", "A", "B", "B"].count id) ↔ Even (["B", "A"].count id) := by
    intro id
    by_cases hA : id = "A"
    · subst hA
      decide
    · by_cases hB : id = "B"
      · subst hB
        decide
      · simp [Ne.symm hA, Ne.symm hB]
  obtain ⟨-, -, hruns, -⟩ := toggles_flip_boxes { overrides := ["C"] }
  refine ⟨hparity, by decide, by decide, ?_, by decide⟩
  exact (hruns _ _ hparity).2 .column relayed

end View

end Lineage
