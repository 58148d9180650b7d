import Lineage.Impact.Trace
import Lineage.Proofs.Paths
import Mathlib.Data.List.Lex
import Mathlib.Data.Prod.Lex
import Mathlib.Data.String.Basic

/-!
# Traces

A trace follows each of its `sides` on its own, with the hops to what it meets, and sorts all that
it meets by the `place` of the report: by side, by hops and by id. So it meets what is connected to
its start, though `connected` does not count hops, and it lists every stop that steps lead to once
for each side.
-/

namespace Lineage

/-! ### The order of a report -/

/-- Numbers are compared one after the other. -/
theorem Text.inOrder_iff_le {ms ns : List Nat} :
  Text.inOrder ms ns = true ↔ ms ≤ ns
  := by
  rw [← not_lt]
  induction ms generalizing ns with
  | nil => simp [Text.inOrder]
  | cons m ms ih =>
    cases ns with
    | nil => simp [Text.inOrder]
    | cons n ns =>
      rw [List.cons_lt_cons_iff]
      simp only [Text.inOrder, Bool.or_eq_true, Bool.and_eq_true, decide_eq_true_eq, ih]
      grind

namespace Impacted

/-- The place of an element in a report. -/
def place (e : Impacted) : String ×ₗ Int ×ₗ List Nat :=
  toLex (e.direction.name, toLex (e.hops, Text.codes e.id.toList))

/-- Elements are sorted by their places. -/
theorem le_iff_place {a b : Impacted} : a.le b = true ↔ a.place ≤ b.place := by
  simp only [place, Prod.Lex.toLex_le_toLex, ← Text.inOrder_iff_le]
  unfold Impacted.le
  split
  · next hside => simp [hside]
  · next hside =>
    rw [not_not] at hside
    split
    · next hhops => simp [hside, hhops]
    · next hhops => simp [hside, not_not.mp hhops, Text.precedes]

theorem pairwise_mergeSort (es : List Impacted) :
  (es.mergeSort Impacted.le).Pairwise (·.place ≤ ·.place)
  := by
  have hsorted : (es.mergeSort Impacted.le).Pairwise fun a b => a.le b = true := by
    apply List.pairwise_mergeSort
    · intro a b c hab hbc
      rw [le_iff_place] at hab hbc ⊢
      exact hab.trans hbc
    · intro a b
      rw [Bool.or_eq_true, le_iff_place, le_iff_place]
      apply le_total
  apply hsorted.imp
  intro a b
  apply le_iff_place.mp

/-- The stop that an element of a report stands for. -/
def stop (e : Impacted) : Stop :=
  match e.kind with
  | .link => .link e.id
  | _ => .node e.id

end Impacted

/-! ### Sides -/

/-- The directions that a trace follows, each on its own. -/
def Direction.sides : Direction → List Direction
  | both => [backward, forward]
  | side => [side]

/-- The elements of an impact on one side of the start. -/
def Impact.on (i : Impact) (side : Direction) : List Impacted :=
  i.elements.filter (·.direction = side)

namespace Diagram

variable {d : Diagram} {direction : Direction} {start : String}

theorem names_iff :
  d.names start = true ↔ start ∈ d.elements ∨ start ∈ d.links.map Link.id
  := by
  simp [names]

/-- All that a trace meets, side by side. -/
def met (d : Diagram) (direction : Direction) (start : String) : List Impacted :=
  direction.sides.flatMap (d.impacted · start)

/-- The impact of an element: all that a trace meets, sorted. -/
def impact (d : Diagram) (direction : Direction) (start : String) : Impact where
  start := start
  direction := direction
  elements := (d.met direction start).mergeSort Impacted.le

/-- A trace of an id that names something reports what it meets. -/
theorem trace_of_names (h : d.names start = true) :
  d.trace direction start = .ok (d.impact direction start)
  := by
  unfold trace
  rw [if_pos h]
  cases direction with
  | backward => simp [impact, met, Direction.sides]
  | forward => simp [impact, met, Direction.sides]
  | both => simp [impact, met, Direction.sides]

theorem trace_of_not_names (h : ¬d.names start = true) :
  d.trace direction start = .error ⟨start⟩
  := by
  unfold trace
  rw [if_neg h]

/-- Sorting keeps what is met. -/
theorem elements_impact_perm (d : Diagram) (direction : Direction) (start : String) :
  (d.impact direction start).elements.Perm (d.met direction start)
  := List.mergeSort_perm _ _

/-- What is met at a stop stands for it. -/
theorem stop_mk (d : Diagram) (t : Stop) (side : Direction) (hops : Int) :
  Impacted.stop { id := t.id, kind := d.kindOf t, direction := side, hops := hops } = t
  := by
  cases t with
  | node id => by_cases hbox : id ∈ d.boxIds <;> simp [kindOf, Impacted.stop, Stop.id, hbox]
  | link id => rfl

/-- What is met on a side stands for the stops that are some hops away. -/
theorem map_stop_impacted (d : Diagram) (side : Direction) (start : String) :
  (d.impacted side start).map Impacted.stop = (Reach.hops d.links side start).map Prod.fst
  := by
  simp [impacted, stop_mk]

theorem filter_impacted (d : Diagram) (side side' : Direction) (start : String) :
  (d.impacted side start).filter (·.direction = side')
    = if side = side' then d.impacted side start else []
  := by
  have hside : ∀ e ∈ d.impacted side start, e.direction = side := by
    intro e he
    obtain ⟨s, -, rfl⟩ := List.mem_map.mp he
    rfl
  split
  · next heq =>
    apply List.filter_eq_self.mpr
    intro e he
    simp [hside e he, heq]
  · next hne =>
    apply List.filter_eq_nil_iff.mpr
    intro e he
    simp [hside e he, hne]

/-- Of all that a trace meets, what is on one side. -/
theorem filter_met (d : Diagram) (direction side : Direction) (start : String) :
  (d.met direction start).filter (·.direction = side)
    = if side ∈ direction.sides then d.impacted side start else []
  := by
  cases direction <;> cases side <;> simp [met, Direction.sides, filter_impacted]

theorem mem_met {e : Impacted} :
  e ∈ d.met direction start ↔ ∃ side ∈ direction.sides, e ∈ d.impacted side start
  := by
  simp [met]

/-- What is reported is what is connected to the start. -/
theorem mem_ids_impact {x : String} :
  x ∈ (d.impact direction start).ids ↔ x ∈ Reach.connected d.links direction start
  := by
  have himpacted : ∀ side, (d.impacted side start).map Impacted.id
      = (Reach.hops d.links side start).map fun s => s.1.id := by
    intro side
    simp [impacted]
  have hids : x ∈ (d.impact direction start).ids
      ↔ x = start ∨ x ∈ (d.met direction start).map Impacted.id := by
    rw [Impact.ids, List.mem_cons, ((elements_impact_perm d direction start).map _).mem_iff]
    rfl
  rw [hids, Reach.mem_connected_iff_hops, ← himpacted, ← himpacted]
  cases direction with
  | backward => simp [met, Direction.sides]
  | forward => simp [met, Direction.sides]
  | both => simp [met, Direction.sides, or_comm]

/-- On a side that is followed, the stops that are some hops away are reported. -/
theorem stops_impact_perm (d : Diagram) (direction side : Direction) (start : String) :
  (((d.impact direction start).on side).map Impacted.stop).Perm
    (if side ∈ direction.sides then (Reach.hops d.links side start).map Prod.fst else [])
  := by
  have hperm := ((elements_impact_perm d direction start).filter (·.direction = side)).map
    Impacted.stop
  rw [filter_met, apply_ite (List.map Impacted.stop), map_stop_impacted, List.map_nil] at hperm
  exact hperm

theorem lookup_hops_impact {e : Impacted} (he : e ∈ (d.impact direction start).elements) :
  ∃ hops, (Reach.hops d.links e.direction start).lookup e.stop = some hops ∧ e.hops = hops
  := by
  obtain ⟨side, -, he⟩ := mem_met.mp ((elements_impact_perm d direction start).mem_iff.mp he)
  obtain ⟨s, hs, rfl⟩ := List.mem_map.mp he
  refine ⟨s.2, ?_, rfl⟩
  rw [stop_mk]
  exact (Keyed.lookup_eq_some_iff_mem (Reach.nodup_hops d.links side start)).mpr hs

/-! ### Reports -/

/-- A report of the impact of an element of a diagram. -/
structure IsReport (d : Diagram) (i : Impact) : Prop where
  /-- What is met is what is connected to the start. -/
  ids : ∀ x, x ∈ i.ids ↔ x ∈ Reach.connected d.links i.direction i.start
  /-- No stop is listed twice on a side. -/
  nodup : ∀ side, ((i.on side).map Impacted.stop).Nodup
  /-- On each side that is followed, steps lead to the stops that are listed and to no others, but
  for the start. -/
  mem_iff : ∀ side t, t ∈ (i.on side).map Impacted.stop
    ↔ side ∈ i.direction.sides ∧ ∃ stop, Reach.stop? d.links i.start = some stop ∧ t ≠ stop
      ∧ Relation.ReflTransGen (Reach.StepIn side d.links) stop t
  /-- Every stop is listed with the hops to it. -/
  hops : ∀ e ∈ i.elements,
    ∃ hops, (Reach.hops d.links e.direction i.start).lookup e.stop = some hops ∧ e.hops = hops
  sorted : i.elements.Pairwise (·.place ≤ ·.place)

theorem impact_isReport (d : Diagram) (direction : Direction) (start : String) :
  d.IsReport (d.impact direction start)
  := by
  constructor
  · intro x
    apply mem_ids_impact
  · intro side
    rw [(stops_impact_perm d direction side start).nodup_iff]
    split
    · apply Reach.nodup_hops
    · apply List.nodup_nil
  · intro side t
    rw [(stops_impact_perm d direction side start).mem_iff, impact, ← Reach.mem_stops_hops]
    split
    · next hside => simp [hside]
    · next hside => simp [hside]
  · intro e he
    apply lookup_hops_impact he
  · apply Impacted.pairwise_mergeSort

/-- Every box, column and link of a diagram has a report, and nothing else has. -/
theorem trace_isReport (d : Diagram) (direction : Direction) (start : String) :
  (start ∈ d.elements ∨ start ∈ d.links.map Link.id →
    ∃ i, d.trace direction start = .ok i ∧ i.start = start ∧ i.direction = direction
      ∧ d.IsReport i)
  ∧ (¬(start ∈ d.elements ∨ start ∈ d.links.map Link.id) →
    d.trace direction start = .error ⟨start⟩)
  := by
  rw [← names_iff]
  constructor
  · intro hnames
    exact ⟨_, trace_of_names hnames, rfl, rfl, impact_isReport d direction start⟩
  · apply trace_of_not_names

/-- The link from the box `x` to a column has the id of the box, another link leads back, and the
box `z` has no links. -/
def homonyms : Diagram where
  boxes :=
    [{ id := "x", kind := .table, face := .table { label := "x", shape := .table } },
     { id := "y", kind := .table
       face := .table { label := "y", shape := .view, columns := [{ id := "y.c", name := "c" }] } },
     { id := "z", kind := .table, face := .table { label := "z", shape := .table } }]
  links :=
    [{ id := "x", source := "x", target := "y", targetHandle := some "y.c" },
     { id := "e", source := "y", target := "x", sourceHandle := some "y.c" }]

/-- The id `x` is that of the link, which leads round to the box `x`. Nothing is met from `z`, and
`w` is not in the diagram. -/
theorem trace_isReport_homonyms :
  ("x" ∈ homonyms.links.map Link.id
    ∧ ∃ i, homonyms.trace .both "x" = .ok i ∧ homonyms.IsReport i
      ∧ .node "x" ∈ (i.on .forward).map Impacted.stop)
  ∧ ("z" ∈ homonyms.elements ∧ ∃ i, homonyms.trace .both "z" = .ok i ∧ homonyms.IsReport i)
  ∧ ¬("w" ∈ homonyms.elements ∨ "w" ∈ homonyms.links.map Link.id)
  ∧ homonyms.trace .both "w" = .error ⟨"w"⟩
  := by
  have hlink : "x" ∈ homonyms.links.map Link.id := by decide
  have hbox : "z" ∈ homonyms.elements := by decide
  have hneither : ¬("w" ∈ homonyms.elements ∨ "w" ∈ homonyms.links.map Link.id) := by decide
  refine ⟨⟨hlink, ?_⟩, ⟨hbox, ?_⟩, hneither, (trace_isReport homonyms .both "w").2 hneither⟩
  · obtain ⟨i, hi, hstart, hdirection, hreport⟩ :=
      (trace_isReport homonyms .both "x").1 (Or.inr hlink)
    refine ⟨i, hi, hreport, (hreport.mem_iff _ _).mpr ?_⟩
    rw [hstart, hdirection, ← Reach.mem_stops_hops]
    decide
  · obtain ⟨i, hi, -, -, hreport⟩ := (trace_isReport homonyms .both "z").1 (Or.inl hbox)
    exact ⟨i, hi, hreport⟩

end Diagram

end Lineage
