import Lineage.Proofs.Coarsening
import Lineage.Proofs.Scoping
import Mathlib.Data.List.Pairwise

/-!
# Folding a diagram

Collapsing boxes folds a diagram: a link that touches a collapsed box is detached from its
columns, and the other links stay where they are. A path through the diagram is folded with it
unless it comes to a column over a link that stays and leaves it over one that is detached, or the
other way round. If no path is cut in this way, then what the filters keep of a diagram is kept of
the folded one, too, since they keep what paths lead to from the elements that they start from.
-/

namespace Lineage

/-! ### Collapsing boxes -/

/-- The box with its columns hidden or shown. -/
def Box.folded (b : Box) (isCollapsed : Bool) : Box :=
  match b.face with
  | .table face => { b with face := .table { face with isCollapsed := isCollapsed } }
  | .script _ => b

namespace Box

variable (b : Box) (c : Bool)

@[simp] theorem folded_id : (b.folded c).id = b.id := by
  unfold folded
  split <;> rfl

theorem folded_table? :
  (b.folded c).table? = b.table?.map fun face => { face with isCollapsed := c }
  := by
  unfold folded table?
  cases hface : b.face <;> simp [hface]

@[simp] theorem folded_handles : (b.folded c).handles = b.handles := by
  simp [handles, columns, folded_table?, Option.elim_map, Function.comp_def]

@[simp] theorem folded_elements : (b.folded c).elements = b.elements := by
  simp [elements]

@[simp] theorem folded_matches (term : String) :
  (b.folded c).matches .column term = b.matches .column term
  := by
  cases hface : b.table? <;> simp [Box.matches, folded_table?, hface]

@[simp] theorem holds_folded (scope : Scope) : scope.holds (b.folded c) = scope.holds b := by
  cases hface : b.table? <;> simp [Scope.holds, folded_table?, hface]

end Box

/-! ### Links -/

namespace Link

/-- The element that a link leaves once some links are detached from their columns. -/
def departure (detached : Link → Bool) (l : Link) : String :=
  if detached l then l.source else l.sourceElement

/-- The element that a link reaches once some links are detached from their columns. -/
def arrival (detached : Link → Bool) (l : Link) : String :=
  if detached l then l.target else l.targetElement

/-- Links that meet still meet once some links are detached, unless they meet in a column and only
one of them is detached from it. -/
theorem arrival_eq_departure {detached : Link → Bool} {l m : Link} (hbox : l.target = m.source)
    (hmeets : l.targetElement = m.sourceElement)
    (huncut : l.targetElement ≠ l.target → detached l = detached m) :
  l.arrival detached = m.departure detached
  := by
  unfold arrival departure
  by_cases hplain : l.targetElement = l.target
  · rw [← hmeets, hplain, hbox, ite_self, ite_self]
  · rw [huncut hplain, hbox, hmeets]

end Link

namespace Diagram

/-! ### Parts and starts -/

theorem mem_links_keep {d : Diagram} {p : Box → Bool} {l : Link} :
  l ∈ (d.keep p).links
    ↔ l ∈ d.links ∧ l.sourceElement ∈ (d.keep p).elements ∧ l.targetElement ∈ (d.keep p).elements
  := by
  simp only [keep, elements, List.mem_filter, Bool.and_eq_true, List.contains_iff_mem]

theorem elements_subset_of_isPart {d e : Diagram} (h : IsPart d e) : d.elements ⊆ e.elements := by
  intro x hx
  obtain ⟨b, hb, hx⟩ := List.mem_flatMap.mp hx
  exact List.mem_flatMap.mpr ⟨b, h.boxes.mem hb, hx⟩

theorem outside_of_isPart {d e : Diagram} (he : ∀ l ∈ e.links, l.id ∉ e.elements)
    (h : IsPart d e) :
  ∀ l ∈ d.links, l.id ∉ d.elements
  := by
  intro l hl hid
  exact he l (h.links.mem hl) (elements_subset_of_isPart h hid)

theorem LinksApart.of_isPart {d e : Diagram} (he : e.LinksApart) (h : IsPart d e) :
  d.LinksApart
  where
  nodup := he.nodup.sublist (h.links.map _)
  not_mem := outside_of_isPart he.not_mem h

/-- A search in the view of columns finds columns. -/
theorem matches_subset_elements (d : Diagram) (term : String) :
  d.matches .column term ⊆ d.elements
  := by
  intro x hx
  obtain ⟨b, hb, hx⟩ := List.mem_flatMap.mp hx
  refine handle_mem_elements hb ?_
  cases hface : b.table? with
  | none => simp [Box.matches, hface] at hx
  | some face =>
    simp only [Box.matches, hface, List.mem_map, List.mem_filter] at hx
    obtain ⟨column, ⟨hcolumn, -⟩, rfl⟩ := hx
    exact List.mem_map_of_mem (by simpa [Box.columns, hface] using hcolumn)

theorem mem_selected {d : Diagram} {s : Selection} {id : String} :
  id ∈ d.selected s
    ↔ ∃ b ∈ d.boxes, (b.table?.elim false fun face => s.labels.contains face.label) = true
      ∧ b.id = id
  := by
  simp only [selected, List.mem_map, List.mem_filter, and_assoc]

/-- A selection starts from all elements of the boxes that it names. -/
theorem mem_selectedElements {d : Diagram} {s : Selection} {x : String} :
  x ∈ d.selectedElements s ↔ ∃ b ∈ d.boxes, b.id ∈ d.selected s ∧ x ∈ b.elements
  := by
  rw [selectedElements, List.mem_append, List.mem_flatMap]
  constructor
  · rintro (hx | ⟨b, hb, hx⟩)
    · obtain ⟨b, hb, -, rfl⟩ := mem_selected.mp hx
      exact ⟨b, hb, hx, List.mem_cons_self⟩
    · obtain ⟨hmem, hselected⟩ := List.mem_filter.mp hb
      exact ⟨b, hmem, by simpa using hselected, List.mem_cons_of_mem _ hx⟩
  · rintro ⟨b, hb, hselected, hx⟩
    rcases List.mem_cons.mp hx with rfl | hx
    · exact Or.inl hselected
    · exact Or.inr ⟨b, List.mem_filter.mpr ⟨hb, by simpa using hselected⟩, hx⟩

theorem selectedElements_subset (d : Diagram) (s : Selection) :
  d.selectedElements s ⊆ d.elements
  := by
  intro x hx
  obtain ⟨b, hb, -, hx⟩ := mem_selectedElements.mp hx
  exact List.mem_flatMap.mpr ⟨b, hb, hx⟩

/-! ### Folded diagrams -/

/-- A diagram and what it is folded to when some links are detached: it has the boxes, collapsed or
not, and a link where each link of the diagram leads then. The links of the diagram end in the boxes
that they join, and where one meets another, they meet after folding. No link is taken for a box or
a column. -/
structure Folds (detached : Link → Bool) (d e : Diagram) : Prop where
  boxes : ∀ b ∈ d.boxes, ∃ c, b.folded c ∈ e.boxes
  links : ∀ l ∈ d.links, ∃ m ∈ e.links,
    m.sourceElement = l.departure detached ∧ m.targetElement = l.arrival detached
  source : ∀ l ∈ d.links, ∀ b ∈ d.boxes, l.sourceElement ∈ b.elements → b.id = l.source
  target : ∀ l ∈ d.links, ∀ b ∈ d.boxes, l.targetElement ∈ b.elements → b.id = l.target
  meets : ∀ l ∈ d.links, ∀ m ∈ d.links, l.targetElement = m.sourceElement →
    l.arrival detached = m.departure detached
  apart : d.LinksApart
  outside : ∀ l ∈ e.links, l.id ∉ e.elements

namespace Folds

variable {detached : Link → Bool} {d e : Diagram} (h : Folds detached d e)

include h

theorem departure_mem {l : Link} (hl : l ∈ d.links) {b : Box} (hb : b ∈ d.boxes)
    (hmem : l.sourceElement ∈ b.elements) :
  l.departure detached ∈ b.elements
  := by
  unfold Link.departure
  split
  · rw [← h.source l hl b hb hmem]
    apply List.mem_cons_self
  · exact hmem

theorem arrival_mem {l : Link} (hl : l ∈ d.links) {b : Box} (hb : b ∈ d.boxes)
    (hmem : l.targetElement ∈ b.elements) :
  l.arrival detached ∈ b.elements
  := by
  unfold Link.arrival
  split
  · rw [← h.target l hl b hb hmem]
    apply List.mem_cons_self
  · exact hmem

theorem mem_elements {b : Box} (hb : b ∈ d.boxes) {x : String} (hx : x ∈ b.elements) :
  x ∈ e.elements
  := by
  obtain ⟨c, hc⟩ := h.boxes b hb
  exact List.mem_flatMap.mpr ⟨_, hc, by simpa using hx⟩

theorem not_mem_ids {b : Box} (hb : b ∈ d.boxes) {x : String} (hx : x ∈ b.elements) :
  x ∉ e.links.map Link.id
  := by
  intro hid
  obtain ⟨l, hl, rfl⟩ := List.mem_map.mp hid
  exact h.outside l hl (h.mem_elements hb hx)

/-! ### Paths -/

omit h in
/-- What is met on a walk from an element of a diagram, and a walk that follows it in the folded
diagram. The first link that is taken says where that walk starts. -/
inductive Followed (detached : Link → Bool) (d e : Diagram) (x : String) : Stop → Prop where
  | start : Followed detached d e x (.node x)
  | link {l m m' : Link} {n : Nat} (hl : l ∈ d.links) (hx : l.sourceElement = x) (hm : m ∈ d.links)
      (hm' : m' ∈ e.links) (htarget : m'.targetElement = m.arrival detached)
      (walk : Reach.Walk (Reach.steps e.links) (.node (l.departure detached)) (.link m'.id) n) :
      Followed detached d e x (.link m.id)
  | node {l m : Link} {n : Nat} (hl : l ∈ d.links) (hx : l.sourceElement = x) (hm : m ∈ d.links)
      (walk : Reach.Walk (Reach.steps e.links)
        (.node (l.departure detached)) (.node (m.arrival detached)) n) :
      Followed detached d e x (.node m.targetElement)

theorem followed {x : String} {t : Stop} {n : Nat}
    (hwalk : Reach.Walk (Reach.steps d.links) (.node x) t n) :
  Followed detached d e x t
  := by
  induction hwalk with
  | here => apply Followed.start
  | step _ hstep ih =>
    obtain ⟨k, hk, ⟨rfl, rfl⟩ | ⟨rfl, rfl⟩⟩ := Reach.mem_steps.mp hstep
    · obtain ⟨k', hk', hsource, htarget⟩ := h.links k hk
      have hdepart : (.node (k.departure detached), .link k'.id) ∈ Reach.steps e.links :=
        Reach.mem_steps.mpr ⟨k', hk', Or.inl ⟨by rw [hsource], rfl⟩⟩
      generalize hstop : Stop.node k.sourceElement = stop at ih
      cases ih with
      | start =>
        apply Followed.link hk (Stop.node.inj hstop) hk hk' htarget
        apply Reach.Walk.step Reach.Walk.here hdepart
      | link => cases hstop
      | @node l m _ hl hx hm walk =>
        -- the walk goes on where the link before arrives
        rw [h.meets m hm k hk (Stop.node.inj hstop).symm] at walk
        apply Followed.link hl hx hk hk' htarget
        apply Reach.Walk.step walk hdepart
    · generalize hstop : Stop.link k.id = stop at ih
      cases ih with
      | start => cases hstop
      | node => cases hstop
      | @link l m m' _ hl hx hm hm' htarget walk =>
        -- links are told apart by their ids, so the walk is still on the link that it took
        obtain rfl : k = m := List.inj_on_of_nodup_map h.apart.nodup hk hm (Stop.link.inj hstop)
        apply Followed.node hl hx hk
        apply Reach.Walk.step walk
        exact Reach.mem_steps.mpr ⟨m', hm', Or.inr ⟨rfl, by rw [htarget]⟩⟩

/-- A walk from one element to another is folded to one that starts where its first link leads from
and ends where its last one leads to. -/
theorem exists_walk {x z : String} {n : Nat}
    (hwalk : Reach.Walk (Reach.steps d.links) (.node x) (.node z) n) (hne : z ≠ x) :
  ∃ l ∈ d.links, l.sourceElement = x ∧ ∃ m ∈ d.links, m.targetElement = z
    ∧ ∃ k, Reach.Walk (Reach.steps e.links)
      (.node (l.departure detached)) (.node (m.arrival detached)) k
  := by
  have hfollowed := h.followed hwalk
  generalize hstop : Stop.node z = stop at hfollowed
  cases hfollowed with
  | start => exact absurd (Stop.node.inj hstop) hne
  | link => cases hstop
  | @node l m k hl hx hm walk => exact ⟨l, hl, hx, m, hm, (Stop.node.inj hstop).symm, k, walk⟩

/-- What is connected to an element is in a box that is connected, after folding, to where the links
of the element lead from and to. -/
theorem exists_connected {a b : Box} (ha : a ∈ d.boxes) (hb : b ∈ d.boxes) {x z : String}
    (hx : x ∈ a.elements) (hz : z ∈ b.elements) (hne : z ≠ x) {direction : Direction}
    (hconnected : z ∈ Reach.connected d.links direction x) {starts : List String}
    (hsource : ∀ l ∈ d.links, l.sourceElement = x → l.departure detached ∈ starts)
    (htarget : ∀ l ∈ d.links, l.targetElement = x → l.arrival detached ∈ starts) :
  ∃ y ∈ b.elements, y ∈ Reach.connectedToAny e.links direction starts
  := by
  have hx' := h.apart.not_mem_ids (List.mem_flatMap.mpr ⟨a, ha, hx⟩)
  have hz' := h.apart.not_mem_ids (List.mem_flatMap.mpr ⟨b, hb, hz⟩)
  rcases (Reach.mem_connected_iff_walk hx' hz').mp hconnected with
    ⟨hdirection, n, hwalk⟩ | ⟨hdirection, n, hwalk⟩
  · obtain ⟨l, hl, rfl, m, hm, rfl, k, hfolded⟩ := h.exists_walk hwalk hne
    have hdeparture := h.departure_mem hl ha hx
    have harrival := h.arrival_mem hm hb hz
    refine ⟨_, harrival, List.mem_flatMap.mpr ⟨_, hsource l hl rfl, ?_⟩⟩
    rw [Reach.mem_connected_iff_walk (h.not_mem_ids ha hdeparture) (h.not_mem_ids hb harrival)]
    exact Or.inl ⟨hdirection, k, hfolded⟩
  · obtain ⟨l, hl, rfl, m, hm, rfl, k, hfolded⟩ := h.exists_walk hwalk hne.symm
    have hdeparture := h.departure_mem hl hb hz
    have harrival := h.arrival_mem hm ha hx
    refine ⟨_, hdeparture, List.mem_flatMap.mpr ⟨_, htarget m hm rfl, ?_⟩⟩
    rw [Reach.mem_connected_iff_walk (h.not_mem_ids ha harrival) (h.not_mem_ids hb hdeparture)]
    exact Or.inr ⟨hdirection, k, hfolded⟩

/-! ### Filters -/

/-- Diagrams stay folded if the boxes that are kept are kept of the folded one, too. -/
theorem keep {p q : Box → Bool} (hpq : ∀ b ∈ d.boxes, ∀ c, p b = true → q (b.folded c) = true) :
  Folds detached (d.keep p) (e.keep q)
  := by
  have hbox : ∀ b ∈ (d.keep p).boxes, b ∈ d.boxes := fun b => (keep_isPart d p).boxes.mem
  have hlink : ∀ l ∈ (d.keep p).links, l ∈ d.links := fun l => (keep_isPart d p).links.mem
  have hboxes : ∀ b ∈ (d.keep p).boxes, ∃ c, b.folded c ∈ (e.keep q).boxes := by
    intro b hb
    obtain ⟨hmem, hp⟩ := List.mem_filter.mp hb
    obtain ⟨c, hc⟩ := h.boxes b hmem
    exact ⟨c, List.mem_filter.mpr ⟨hc, hpq b hmem c hp⟩⟩
  have helements : ∀ b ∈ (d.keep p).boxes, ∀ x ∈ b.elements, x ∈ (e.keep q).elements := by
    intro b hb x hx
    obtain ⟨c, hc⟩ := hboxes b hb
    exact List.mem_flatMap.mpr ⟨_, hc, by simpa using hx⟩
  constructor
  · exact hboxes
  · intro l hl
    obtain ⟨hmem, hs, ht⟩ := mem_links_keep.mp hl
    obtain ⟨a, ha, hs⟩ := List.mem_flatMap.mp hs
    obtain ⟨b, hb, ht⟩ := List.mem_flatMap.mp ht
    obtain ⟨m, hm, hsource, htarget⟩ := h.links l hmem
    have hs' := helements a ha _ (h.departure_mem hmem (hbox a ha) hs)
    have ht' := helements b hb _ (h.arrival_mem hmem (hbox b hb) ht)
    rw [← hsource] at hs'
    rw [← htarget] at ht'
    exact ⟨m, mem_links_keep.mpr ⟨hm, hs', ht'⟩, hsource, htarget⟩
  · intro l hl b hb
    exact h.source l (hlink l hl) b (hbox b hb)
  · intro l hl b hb
    exact h.target l (hlink l hl) b (hbox b hb)
  · intro l hl m hm
    exact h.meets l (hlink l hl) m (hlink m hm)
  · exact h.apart.of_isPart (keep_isPart d p)
  · exact outside_of_isPart h.outside (keep_isPart e q)

theorem within (scope : Scope) : Folds detached (d.within scope) (e.within scope) := by
  rw [within_eq, within_eq]
  split
  · apply h.keep
    intro b _ c hb
    simpa using hb
  · exact h

theorem highlighting {xs ys : List String}
    (hxs : ∀ b ∈ d.boxes, (∃ x ∈ b.elements, x ∈ xs) → ∃ y ∈ b.elements, y ∈ ys) :
  Folds detached (d.highlighting xs) (e.highlighting ys)
  := by
  apply h.keep
  intro b hb c hany
  simpa using hxs b hb (by simpa using hany)

/-- The boxes that are connected to some elements are connected, after folding, to elements among
which are the former ones and where their links lead from and to. -/
theorem exists_connectedToAny {starts starts' : List String} (hstarts : starts ⊆ d.elements)
    (hsubset : starts ⊆ starts')
    (hsource : ∀ l ∈ d.links, l.sourceElement ∈ starts → l.departure detached ∈ starts')
    (htarget : ∀ l ∈ d.links, l.targetElement ∈ starts → l.arrival detached ∈ starts')
    {direction : Direction} {b : Box} (hb : b ∈ d.boxes)
    (hconnected : ∃ z ∈ b.elements, z ∈ Reach.connectedToAny d.links direction starts) :
  ∃ y ∈ b.elements, y ∈ Reach.connectedToAny e.links direction starts'
  := by
  obtain ⟨z, hz, hmem⟩ := hconnected
  obtain ⟨x, hx, hconnected⟩ := List.mem_flatMap.mp hmem
  obtain ⟨a, ha, hxa⟩ := List.mem_flatMap.mp (hstarts hx)
  by_cases hne : z = x
  · refine ⟨z, hz, List.mem_flatMap.mpr ⟨x, hsubset hx, ?_⟩⟩
    exact Reach.mem_connected.mpr (Or.inl hne)
  · apply h.exists_connected ha hb hxa hz hne hconnected
    · rintro l hl rfl
      exact hsource l hl hx
    · rintro l hl rfl
      exact htarget l hl hx

/-- A search that finds the same in both diagrams, and only columns whose links stay, has its focus
on no fewer boxes of the folded one. -/
theorem focus {term : String} (hfound : e.matches .column term = d.matches .column term)
    (hstays : ∀ l ∈ d.links, l.sourceElement ∈ d.matches .column term
      ∨ l.targetElement ∈ d.matches .column term → detached l = false) :
  Folds detached (d.focus .column term) (e.focus .column term)
  := by
  unfold Diagram.focus
  rw [hfound]
  split
  · exact h
  · apply h.highlighting
    intro b hb
    apply h.exists_connectedToAny (matches_subset_elements d term) (fun x hx => hx) _ _ hb
    · intro l hl hx
      rwa [Link.departure, hstays l hl (Or.inl hx)]
    · intro l hl hx
      rwa [Link.arrival, hstays l hl (Or.inr hx)]

theorem selected_subset (s : Selection) : d.selected s ⊆ e.selected s := by
  intro id hid
  obtain ⟨b, hb, hlabel, rfl⟩ := mem_selected.mp hid
  obtain ⟨c, hc⟩ := h.boxes b hb
  refine mem_selected.mpr ⟨_, hc, ?_, b.folded_id c⟩
  simpa [Box.folded_table?, Option.elim_map, Function.comp_def] using hlabel

/-- A selection starts from all elements of its boxes after folding. -/
theorem mem_selectedElements_of_selected {s : Selection} {b : Box} (hb : b ∈ d.boxes)
    (hselected : b.id ∈ d.selected s) {x : String} (hx : x ∈ b.elements) :
  x ∈ e.selectedElements s
  := by
  obtain ⟨c, hc⟩ := h.boxes b hb
  refine mem_selectedElements.mpr ⟨_, hc, ?_, by simpa using hx⟩
  simpa using h.selected_subset s hselected

/-- Wherever the links of a selected box lead from and to once they are detached, the selection
starts from there. -/
theorem exists_connectedToAny_selected {s : Selection} {b : Box} (hb : b ∈ d.boxes)
    (hconnected : ∃ z ∈ b.elements,
      z ∈ Reach.connectedToAny d.links s.direction (d.selectedElements s)) :
  ∃ y ∈ b.elements, y ∈ Reach.connectedToAny e.links s.direction (e.selectedElements s)
  := by
  apply h.exists_connectedToAny (d.selectedElements_subset s) _ _ _ hb hconnected
  · intro x hx
    obtain ⟨a, ha, hselected, hx⟩ := mem_selectedElements.mp hx
    exact h.mem_selectedElements_of_selected ha hselected hx
  · intro l hl hx
    obtain ⟨a, ha, hselected, hx⟩ := mem_selectedElements.mp hx
    exact h.mem_selectedElements_of_selected ha hselected (h.departure_mem hl ha hx)
  · intro l hl hx
    obtain ⟨a, ha, hselected, hx⟩ := mem_selectedElements.mp hx
    exact h.mem_selectedElements_of_selected ha hselected (h.arrival_mem hl ha hx)

theorem connectedTo (s : Selection) : Folds detached (d.connectedTo s) (e.connectedTo s) := by
  have houtside := outside_of_isPart h.outside (connectedTo_isPart e s)
  rw [d.connectedTo_eq]
  split
  · next hlabels => rwa [e.connectedTo_eq, if_pos hlabels]
  · next hlabels =>
    split
    · -- nothing is left of the diagram, so any part of the folded one will do
      exact ⟨by simp, by simp, by simp, by simp, by simp, ⟨by simp, by simp⟩, houtside⟩
    · next hselected =>
      obtain ⟨id, hid⟩ := List.exists_mem_of_ne_nil _ (by simpa using hselected)
      have hselected' : ¬(e.selected s).isEmpty := by
        simpa using List.ne_nil_of_mem (h.selected_subset s hid)
      rw [e.connectedTo_eq, if_neg hlabels, if_neg hselected']
      apply h.highlighting
      rintro b hb ⟨z, hz, hmem⟩
      rcases List.mem_append.mp hmem with hmem | hmem
      · obtain ⟨y, hy, hconnected⟩ := h.exists_connectedToAny_selected hb ⟨z, hz, hmem⟩
        exact ⟨y, hy, List.mem_append_left _ hconnected⟩
      · exact ⟨z, hz, List.mem_append_right _ (h.selected_subset s hmem)⟩

end Folds

/-! ### Collapsed boxes -/

@[simp] theorem remap_elements (d : Diagram) : d.remap.elements = d.elements := by
  simp [elements]

/-- If no two elements are the same, an element is in one box only. -/
theorem eq_of_mem_elements {d : Diagram} (hd : d.elements.Nodup) {a b : Box} (ha : a ∈ d.boxes)
    (hb : b ∈ d.boxes) {x : String} (hxa : x ∈ a.elements) (hxb : x ∈ b.elements) :
  a = b
  := by
  obtain ⟨-, hdisjoint⟩ := List.nodup_flatMap.mp hd
  have : Std.Symm (Function.onFun List.Disjoint Box.elements) := ⟨fun _ _ h _ hx hy => h hy hx⟩
  by_contra hne
  exact hdisjoint.forall ha hb hne hxa hxb

theorem nodup_boxIds_of_nodup {d : Diagram} (hd : d.elements.Nodup) : d.boxIds.Nodup := by
  have hsublist : ∀ bs : List Box, (bs.map Box.id).Sublist (bs.flatMap Box.elements) := by
    intro bs
    induction bs with
    | nil => apply List.Sublist.refl
    | cons b bs ih =>
      rw [List.map_cons, List.flatMap_cons]
      apply (List.singleton_sublist.mpr List.mem_cons_self).append ih
  exact hd.sublist (hsublist d.boxes)

/-- An end that is there is an element of the box there. -/
theorem exists_box_of_fits {d : Diagram} (hd : d.boxIds.Nodup) {id : String}
    {handle : Option String} (hid : id ∈ d.boxIds)
    (hfits : ∀ h, Text.filled handle = some h → h ∈ d.handlesOf id) :
  ∃ b ∈ d.boxes, b.id = id ∧ (Text.filled handle).getD id ∈ b.elements
  := by
  obtain ⟨b, hb, rfl⟩ := List.mem_map.mp hid
  refine ⟨b, hb, rfl, ?_⟩
  cases hhandle : Text.filled handle with
  | none => apply List.mem_cons_self
  | some x =>
    rw [handlesOf_id hd hb] at hfits
    exact List.mem_cons_of_mem _ (hfits x hhandle)

section Ends

variable {d : Diagram} (hd : d.IsWhole) {l : Link} (hl : l ∈ d.links)

include hd hl

theorem exists_source_box : ∃ b ∈ d.boxes, b.id = l.source ∧ l.sourceElement ∈ b.elements := by
  obtain ⟨⟨hsource, -⟩, hfits, -⟩ := resolves_iff.mp (hd.resolves l hl)
  exact exists_box_of_fits hd.nodup hsource hfits

theorem exists_target_box : ∃ b ∈ d.boxes, b.id = l.target ∧ l.targetElement ∈ b.elements := by
  obtain ⟨⟨-, htarget⟩, -, hfits⟩ := resolves_iff.mp (hd.resolves l hl)
  exact exists_box_of_fits hd.nodup htarget hfits

end Ends

/-- A pair that touches a collapsed box is drawn as a link from box to box. -/
theorem exists_plain_of_mem_pairs {d : Diagram} {l : Link} (hpair : l.pair ∈ d.pairs)
    (htouches : d.touchesCollapsed l = true) :
  ∃ m ∈ d.remap.links, m.sourceElement = l.source ∧ m.targetElement = l.target
  := by
  obtain ⟨m, hm, hpair⟩ := List.mem_map.mp (mem_pairs_remap.mpr hpair)
  obtain ⟨hsource, htarget⟩ : m.source = l.source ∧ m.target = l.target := by
    simpa [Link.pair] using hpair
  have htouches' : d.touchesCollapsed m = true := by
    rwa [touchesCollapsed, hsource, htarget]
  refine ⟨m, hm, ?_⟩
  rw [remap_eq] at hm
  have hplain := not_isAnchored_of_mem_remapLinks hm htouches'
  rw [Link.sourceElement_of_not_isAnchored hplain, Link.targetElement_of_not_isAnchored hplain]
  exact ⟨hsource, htarget⟩

/-- Whether the boxes of a diagram are collapsed in another one so that no path is cut. All boxes
that are collapsed stay collapsed, no id is used twice, and of two links that meet in a column both
are detached from it or none. -/
structure FoldsTo (d e : Diagram) : Prop where
  collapsed : d.collapsed ⊆ e.collapsed
  nodup : d.elements.Nodup
  apart : d.remap.LinksApart
  outside : ∀ l ∈ e.remap.links, l.id ∉ e.elements
  uncut : ∀ l ∈ d.remap.links, ∀ m ∈ d.remap.links, l.targetElement = m.sourceElement →
    l.targetElement ≠ l.target → e.touchesCollapsed l = e.touchesCollapsed m

namespace FoldsTo

variable {d e : Diagram} (h : d.FoldsTo e)

include h

theorem touchesCollapsed {l : Link} (hl : d.touchesCollapsed l = true) :
  e.touchesCollapsed l = true
  := by
  rw [touchesCollapsed_iff] at hl ⊢
  exact hl.imp (fun hsource => h.collapsed hsource) (fun htarget => h.collapsed htarget)

/-- A link that is not detached is drawn as it is. -/
theorem mem_links_remap (hlinks : e.links = d.links) {l : Link} (hl : l ∈ d.remap.links)
    (htouches : e.touchesCollapsed l = false) :
  l ∈ e.remap.links
  := by
  rw [remap_eq] at hl ⊢
  rcases mem_remapLinks.mp hl with ⟨hmem, -⟩ | ⟨m, hm, -, rfl⟩
  · rw [← hlinks] at hmem
    exact mem_remapLinks.mpr (Or.inl ⟨hmem, htouches⟩)
  · have hcollapsed : d.touchesCollapsed m.plain = true := by
      have hfound := List.find?_some hm
      simp only [Bool.and_eq_true] at hfound
      simpa [Diagram.touchesCollapsed] using hfound.1
    rw [h.touchesCollapsed hcollapsed] at htouches
    cases htouches

/-- Redrawing the links of collapsed boxes folds one diagram to the other. -/
theorem folds (hd : d.IsWhole) (hboxes : ∀ b ∈ d.boxes, ∃ c, b.folded c ∈ e.boxes)
    (hlinks : e.links = d.links) :
  Folds e.touchesCollapsed d.remap e.remap
  := by
  have hwhole := remap_isWhole hd
  have hnodup : d.remap.elements.Nodup := by
    rw [remap_elements]
    exact h.nodup
  constructor
  · simpa using hboxes
  · intro l hl
    unfold Link.departure Link.arrival
    cases htouches : e.touchesCollapsed l with
    | true =>
      apply exists_plain_of_mem_pairs _ htouches
      rw [pairs, hlinks, ← pairs, ← mem_pairs_remap]
      exact List.mem_map_of_mem hl
    | false => exact ⟨l, h.mem_links_remap hlinks hl htouches, rfl, rfl⟩
  · intro l hl b hb hmem
    obtain ⟨a, ha, hid, hmem'⟩ := exists_source_box hwhole hl
    rw [eq_of_mem_elements hnodup hb ha hmem hmem', hid]
  · intro l hl b hb hmem
    obtain ⟨a, ha, hid, hmem'⟩ := exists_target_box hwhole hl
    rw [eq_of_mem_elements hnodup hb ha hmem hmem', hid]
  · intro l hl m hm hmeets
    obtain ⟨a, ha, hida, hxa⟩ := exists_target_box hwhole hl
    obtain ⟨b, hb, hidb, hxb⟩ := exists_source_box hwhole hm
    rw [hmeets] at hxa
    have hbox : l.target = m.source := by
      rw [← hida, ← hidb, eq_of_mem_elements hnodup ha hb hxa hxb]
    exact Link.arrival_eq_departure hbox hmeets (h.uncut l hl m hm hmeets)
  · exact h.apart
  · rw [remap_elements]
    exact h.outside

end FoldsTo

/-- The diagram with the boxes collapsed that a test names. -/
def folded (d : Diagram) (collapses : String → Bool) : Diagram :=
  { d with boxes := d.boxes.map fun b => b.folded (collapses b.id) }

@[simp] theorem folded_boxIds (d : Diagram) (collapses : String → Bool) :
  (d.folded collapses).boxIds = d.boxIds
  := by
  simp [boxIds, folded, Function.comp_def]

@[simp] theorem folded_elements (d : Diagram) (collapses : String → Bool) :
  (d.folded collapses).elements = d.elements
  := by
  simp [elements, folded, List.flatMap_map]

theorem exists_folded (d : Diagram) (collapses : String → Bool) :
  ∀ b ∈ d.boxes, ∃ c, b.folded c ∈ (d.folded collapses).boxes
  := by
  intro b hb
  exact ⟨collapses b.id, List.mem_map_of_mem hb⟩

/-- A search finds the same when boxes are collapsed. -/
theorem matches_remap_folded (d : Diagram) (collapses : String → Bool) (scope : Scope)
    (term : String) :
  ((d.folded collapses).remap.within scope).matches .column term
    = (d.remap.within scope).matches .column term
  := by
  rw [within_eq, within_eq]
  split <;> simp [Diagram.matches, keep, folded, List.filter_map, List.flatMap_map,
    Function.comp_def]

end Diagram

/-! ### Views -/

/-- The options with other boxes collapsed. -/
def Options.collapsing (o : Options) (byDefault : Bool) (overrides : List String) : Options :=
  { o with collapsedByDefault := byDefault, overrides := overrides }

/-- Whether the links of the columns that a search finds stay where they are when a diagram is
folded to another one. -/
def Options.FocusStays (o : Options) (d e : Diagram) : Prop :=
  o.focus = true → o.searchTerm ≠ "" → ∀ l ∈ (d.remap.within o.scope).links,
    l.sourceElement ∈ (d.remap.within o.scope).matches .column o.searchTerm
      ∨ l.targetElement ∈ (d.remap.within o.scope).matches .column o.searchTerm →
    e.touchesCollapsed l = false

theorem Diagram.Folds.focused {detached : Link → Bool} {d e : Diagram}
    (h : Diagram.Folds detached d e) {o : Options}
    (hfound : e.matches .column o.searchTerm = d.matches .column o.searchTerm)
    (hstays : o.focus = true → o.searchTerm ≠ "" → ∀ l ∈ d.links,
      l.sourceElement ∈ d.matches .column o.searchTerm
        ∨ l.targetElement ∈ d.matches .column o.searchTerm → detached l = false) :
  Diagram.Folds detached (o.focused .column d) (o.focused .column e)
  := by
  unfold Options.focused
  split
  · next hsearch =>
    obtain ⟨hon, hterm⟩ : o.focus = true ∧ o.searchTerm ≠ "" := by simpa using hsearch
    exact h.focus hfound (hstays hon hterm)
  · exact h

variable (o : Options) (byDefault : Bool) (overrides : List String)

/-- What is collapsed does not matter to the boxes otherwise. -/
theorem Placement.boxes_collapsing (p : Placement) :
  p.boxes (o.collapsing byDefault overrides)
    = (p.boxes o).map (List.map fun b =>
      b.folded ((o.collapsing byDefault overrides).collapses b.id))
  := by
  have hrelation : p.box (o.collapsing byDefault overrides) = fun n =>
      (p.box o n).map fun b => b.folded ((o.collapsing byDefault overrides).collapses b.id) := by
    funext n
    have hcompleted : p.completed (o.collapsing byDefault overrides) n = p.completed o n := rfl
    unfold box
    rw [hcompleted]
    cases p.completed o n with
    | error fault => rfl
    | ok shown => cases n.home <;> rfl
  have houtput : p.outputBox (o.collapsing byDefault overrides)
      = (p.outputBox o).folded ((o.collapsing byDefault overrides).collapses p.outputId) := rfl
  unfold boxes
  simp only [hrelation, mapM_map, houtput]
  cases p.drawOrder.mapM (p.box o) with
  | error fault => rfl
  | ok bs =>
    split
    · simp [Except.map, bind, Except.bind, pure, Except.pure]
    · simp [Except.map, bind, Except.bind, pure, Except.pure]
      rfl

namespace View

theorem build_collapsing (statements : List Statement) :
  View.column.build statements (o.collapsing byDefault overrides)
    = (View.column.build statements o).map fun d =>
      d.folded (o.collapsing byDefault overrides).collapses
  := by
  unfold build Placement.columnDiagram
  simp only [Placement.boxes_collapsing]
  cases (Placement.ofStatements statements).boxes o <;> rfl

/-- If a diagram can be folded, the filters keep no fewer boxes of it when it is. -/
theorem boxIds_refine_subset {d : Diagram} (hd : d.IsWhole) {collapses : String → Bool}
    (hfolds : d.FoldsTo (d.folded collapses)) (hfocus : o.FocusStays d (d.folded collapses)) :
  (View.column.refine o d).boxIds ⊆ (View.column.refine o (d.folded collapses)).boxIds
  := by
  have hremap := hfolds.folds hd (d.exists_folded collapses) rfl
  have hfound := d.matches_remap_folded collapses o.scope o.searchTerm
  have hkept := ((hremap.within o.scope).focused hfound hfocus).connectedTo o.selection
  intro id hid
  unfold refine at hid ⊢
  rw [Diagram.prune_eq] at hid ⊢
  obtain ⟨b, hb, rfl⟩ := List.mem_map.mp hid
  obtain ⟨c, hc⟩ := hkept.boxes b hb
  exact List.mem_map.mpr ⟨_, hc, b.folded_id c⟩

/-- Collapsing more boxes hides no box that the filters keep in the view of columns, provided that
no id is used twice, that of two links that meet in a column both are detached from it or none, and
that none is detached from a column that the focus starts from. -/
theorem render_boxIds_subset (statements : List Statement) :
  (∃ fault, View.column.render statements o = .error fault
      ∧ View.column.render statements (o.collapsing byDefault overrides) = .error fault)
    ∨ ∃ d e shown shown', View.column.build statements o = .ok d
      ∧ View.column.build statements (o.collapsing byDefault overrides) = .ok e
      ∧ View.column.render statements o = .ok shown
      ∧ View.column.render statements (o.collapsing byDefault overrides) = .ok shown'
      ∧ (d.FoldsTo e → o.FocusStays d e → shown.boxIds ⊆ shown'.boxIds)
  := by
  unfold render
  rw [build_collapsing]
  cases hbuild : View.column.build statements o with
  | error fault => exact Or.inl ⟨fault, rfl, rfl⟩
  | ok d =>
    refine Or.inr ⟨d, _, _, _, rfl, rfl, rfl, rfl, ?_⟩
    intro hfolds hfocus
    apply boxIds_refine_subset o _ hfolds hfocus
    apply Placement.columnDiagram_isWhole_of_nodup hbuild
    exact Diagram.nodup_boxIds_of_nodup hfolds.nodup

/-- Data moves from `A` to `B` and on to `C`, and `D` is apart. -/
def relayed : List Statement :=
  [{ nodes :=
      [{ id := "A", kind := .table, label := "a" },
       { id := "B", kind := .table, label := "b" },
       { id := "C", kind := .table, label := "c" },
       { id := "D", kind := .table, label := "d" },
       { id := "A.x", kind := .column, label := "x" },
       { id := "B.x", kind := .column, label := "x" },
       { id := "C.x", kind := .column, label := "x" }]
     edges :=
      [{ id := "1", source := "A", target := "A.x", kind := .ownership },
       { id := "2", source := "B", target := "B.x", kind := .ownership },
       { id := "3", source := "C", target := "C.x", kind := .ownership },
       { id := "4", source := "A.x", target := "B.x", kind := .dataFlow },
       { id := "5", source := "B.x", target := "C.x", kind := .dataFlow }] }]

/-- Collapsing `B` detaches both links, so that `C` is still connected to `a`. -/
theorem render_boxIds_subset_relayed :
  ∃ shown shown',
    View.column.render relayed { selection := { labels := ["a"] } } = .ok shown
    ∧ View.column.render relayed { selection := { labels := ["a"] }, overrides := ["B"] }
      = .ok shown'
    ∧ shown.boxIds = ["A", "B", "C"]
    ∧ shown.boxIds ⊆ shown'.boxIds
  := by
  obtain ⟨_, herror, -⟩ | ⟨d, e, shown, shown', hd, he, hshown, hshown', hsubset⟩ :=
    render_boxIds_subset { selection := { labels := ["a"] } } false ["B"] relayed
  · cases herror
  · refine ⟨shown, shown', hshown, hshown', ?_, ?_⟩
    · cases hshown
      rfl
    · cases hd
      cases he
      apply hsubset
      · exact ⟨by decide, by decide, ⟨by decide, by decide⟩, by decide, by decide⟩
      · intro hfocus
        cases hfocus

/-- With all boxes collapsed, a column that is searched for has no links left to follow. If only `C`
is collapsed, the path from `A` to `C` is cut at the column of `B`. -/
theorem render_hides_boxes :
  (View.column.render relayed { searchTerm := "a", focus := true }).map Diagram.boxIds
      = .ok ["A", "B", "C"]
    ∧ (View.column.render relayed
        { searchTerm := "a", focus := true, collapsedByDefault := true }).map Diagram.boxIds
      = .ok ["A"]
    ∧ (View.column.render relayed { selection := { labels := ["a"] } }).map Diagram.boxIds
      = .ok ["A", "B", "C"]
    ∧ (View.column.render relayed
        { selection := { labels := ["a"] }, overrides := ["C"] }).map Diagram.boxIds
      = .ok ["A", "B"]
  := by
  decide

end View

end Lineage
