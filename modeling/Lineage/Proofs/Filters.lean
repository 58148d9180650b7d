import Lineage.Proofs.Folding

/-!
# Filters

A filter keeps the boxes that pass a test and the links whose ends are elements of these boxes.
Keeping boxes by one test and then by another is keeping those that pass both, since an element
that is kept at last was kept before. So it only matters which filters are applied, not in which
order or how often.

A filter looks at elements, so it may keep a link of a box that is gone if the end of the link is
an element of another box. Once loose links are dropped, the links that are left are those between
the boxes that are left.
-/

namespace Lineage

namespace Diagram

/-! ### Keeping boxes -/

theorem keep_congr {d : Diagram} {p q : Box → Bool} (h : ∀ b ∈ d.boxes, p b = q b) :
  d.keep p = d.keep q
  := by
  unfold keep
  rw [List.filter_congr h]

/-- Keeping boxes by one test and then by another is keeping those that pass both. -/
theorem keep_keep (d : Diagram) (p q : Box → Bool) :
  (d.keep p).keep q = d.keep fun b => p b && q b
  := by
  have hboxes : (d.boxes.filter p).filter q = d.boxes.filter fun b => p b && q b := by
    rw [List.filter_filter]
    simp only [Bool.and_comm]
  have hsubset := elements_subset_of_isPart ((d.keep p).keep_isPart q)
  have hlinks : ((d.keep p).keep q).links = (d.keep fun b => p b && q b).links := by
    simp only [keep, elements, hboxes, List.filter_filter] at hsubset ⊢
    apply List.filter_congr
    intro l _
    rw [Bool.eq_iff_iff]
    simp only [Bool.and_eq_true, List.contains_iff_mem]
    constructor
    · exact And.left
    · intro hends
      exact ⟨hends, hsubset hends.1, hsubset hends.2⟩
  calc (d.keep p).keep q
    _ = { boxes := (d.boxes.filter p).filter q, links := ((d.keep p).keep q).links } := rfl
    _ = d.keep fun b => p b && q b := by rw [hboxes, hlinks]; rfl

/-- If all boxes that are kept pass another test, they are kept by that test, too. -/
theorem keep_keep_of_forall {d : Diagram} {p q : Box → Bool}
    (h : ∀ b ∈ d.boxes, p b = true → q b = true) :
  (d.keep p).keep q = d.keep p
  := by
  rw [keep_keep]
  apply keep_congr
  intro b hb
  cases hp : p b with
  | false => rfl
  | true => rw [h b hb hp, Bool.and_self]

end Diagram

/-! ### Filters in a row -/

/-- The filters that only look at boxes: by schema and database, or by the elements to show. -/
inductive Narrowing where
  | within (scope : Scope)
  | highlighting (elements : List String)

namespace Narrowing

/-- The part of a diagram that a filter keeps. -/
def apply (n : Narrowing) (d : Diagram) : Diagram :=
  match n with
  | within scope => d.within scope
  | highlighting elements => d.highlighting elements

/-- The part of a diagram that is left by some filters, one after the other. -/
def applyAll (ns : List Narrowing) (d : Diagram) : Diagram :=
  ns.foldl (fun d n => n.apply d) d

/-- Whether a filter does anything at all. -/
def isActive : Narrowing → Bool
  | within scope => scope.isActive
  | highlighting _ => true

/-- The test that a filter keeps boxes by. -/
def holds (n : Narrowing) (b : Box) : Bool :=
  match n with
  | within scope => scope.holds b
  | highlighting elements => b.elements.any elements.contains

theorem holds_of_not_isActive {n : Narrowing} (h : n.isActive = false) (b : Box) :
  n.holds b = true
  := by
  cases n with
  | within scope => apply Scope.holds_of_not_isActive h
  | highlighting elements => cases h

theorem apply_eq (n : Narrowing) (d : Diagram) :
  n.apply d = if n.isActive then d.keep n.holds else d
  := by
  cases n with
  | within scope => apply Diagram.within_eq
  | highlighting elements => rfl

/-- Filters in a row keep the boxes that pass all tests. If none of them is active, the diagram stays
as it is, together with links that end nowhere. -/
theorem applyAll_eq (ns : List Narrowing) (d : Diagram) :
  applyAll ns d = if ns.any isActive then d.keep fun b => ns.all (·.holds b) else d
  := by
  induction ns generalizing d with
  | nil => rfl
  | cons n ns ih =>
    have hrest : applyAll (n :: ns) d = applyAll ns (n.apply d) := rfl
    rw [hrest, ih, apply_eq, List.any_cons]
    -- a filter that is not active has a test that every box passes, but it drops no links
    cases hn : n.isActive with
    | false => simp [holds_of_not_isActive hn]
    | true =>
      cases hns : ns.any isActive with
      | true => simp [Diagram.keep_keep]
      | false =>
        have hall : ∀ b, ns.all (·.holds b) = true := by
          intro b
          apply List.all_eq_true.mpr
          intro m hm
          apply holds_of_not_isActive
          simpa using List.any_eq_false.mp hns m hm
        simp [hall]

/-- It only matters which filters are applied, not in which order or how often. -/
theorem applyAll_congr {ns ms : List Narrowing} (h : ∀ n, n ∈ ns ↔ n ∈ ms) (d : Diagram) :
  applyAll ns d = applyAll ms d
  := by
  have hany : ns.any isActive = ms.any isActive := by
    rw [Bool.eq_iff_iff]
    simp only [List.any_eq_true, h]
  have hall : ∀ b, ns.all (·.holds b) = ms.all (·.holds b) := by
    intro b
    rw [Bool.eq_iff_iff]
    simp only [List.all_eq_true, h]
  simp only [applyAll_eq, hany, hall]

/-- Applying a filter twice is applying it once, and two filters may be applied in either order. -/
theorem apply_idem_and_comm (n m : Narrowing) (d : Diagram) :
  n.apply (n.apply d) = n.apply d ∧ n.apply (m.apply d) = m.apply (n.apply d)
  := by
  have htwice : applyAll [n, n] d = applyAll [n] d := applyAll_congr (by simp) d
  have horder : applyAll [m, n] d = applyAll [n, m] d := applyAll_congr (by simp [or_comm]) d
  exact ⟨htwice, horder⟩

end Narrowing

/-! ### Scopes and loose links -/

namespace Diagram

/-- If no two boxes share an id and no link is loose, what is left in a scope once loose links are
dropped is the part that the boxes in the scope induce, whatever ids the columns have. -/
theorem prune_within_eq_induced {d : Diagram} (hids : d.boxIds.Nodup) (hprune : d.prune = d)
    (scope : Scope) :
  (d.within scope).prune = d.induced scope.holds
  := by
  apply prune_within
  exact ⟨hids, prune_eq_self_iff.mp hprune⟩

/-- The boxes `A` and `B` have a column of the same id, and another column of `B` has the id of the
box `C`. Only `B` is in the schema `t`. -/
def homonymousColumns : Diagram where
  boxes :=
    [{ id := "A", kind := .table
       face := .table { label := "a", shape := .table, schemaName := some "s"
                        columns := [{ id := "x", name := "x" }] } },
     { id := "B", kind := .table
       face := .table { label := "b", shape := .table, schemaName := some "t"
                        columns := [{ id := "x", name := "x" }, { id := "C", name := "c" }] } },
     { id := "C", kind := .table
       face := .table { label := "c", shape := .view, schemaName := some "s"
                        columns := [{ id := "y", name := "y" }] } }]
  links :=
    [{ id := "1", source := "A", target := "C", sourceHandle := some "x" },
     { id := "2", source := "B", target := "C", sourceHandle := some "x", targetHandle := some "y" },
     { id := "3", source := "A", target := "B", targetHandle := some "C" }]

/-- The scope alone keeps the links of `B`, since other boxes have the elements at their ends. -/
theorem prune_within_eq_induced_homonymousColumns :
  homonymousColumns.boxIds.Nodup
  ∧ homonymousColumns.prune = homonymousColumns
  ∧ (homonymousColumns.within { schemas := ["s"] }).links = homonymousColumns.links
  ∧ (homonymousColumns.within { schemas := ["s"] }).prune
    = homonymousColumns.induced (Scope.holds { schemas := ["s"] })
  ∧ (homonymousColumns.within { schemas := ["s"] }).prune.links.map Link.id = ["1"]
  := by
  have hids : homonymousColumns.boxIds.Nodup := by decide
  have hprune : homonymousColumns.prune = homonymousColumns := by decide
  refine ⟨hids, hprune, by decide, ?_, by decide⟩
  exact prune_within_eq_induced hids hprune { schemas := ["s"] }

end Diagram

end Lineage
