import Lineage.Diagram.Select
import Lineage.Proofs.Keyed

/-!
# Laws of the passes

Every pass but `Diagram.remap` takes a part of a diagram: it drops boxes and links and changes
none. `Diagram.remap` keeps the boxes and, of the links that touch a collapsed box, draws the
first one of every pair without handles.
-/

namespace Lineage

/-! ### Plain links -/

namespace Link

theorem isAnchored_eq_false_iff {l : Link} :
  l.isAnchored = false ↔ Text.filled l.sourceHandle = none ∧ Text.filled l.targetHandle = none
  := by
  simp [isAnchored, Text.isFilled]

theorem sourceElement_of_not_isAnchored {l : Link} (h : l.isAnchored = false) :
  l.sourceElement = l.source
  := by
  obtain ⟨hsource, -⟩ := isAnchored_eq_false_iff.mp h
  rw [sourceElement, hsource]
  rfl

theorem targetElement_of_not_isAnchored {l : Link} (h : l.isAnchored = false) :
  l.targetElement = l.target
  := by
  obtain ⟨-, htarget⟩ := isAnchored_eq_false_iff.mp h
  rw [targetElement, htarget]
  rfl

@[simp] theorem plain_source (l : Link) : l.plain.source = l.source := by
  unfold plain
  split <;> rfl

@[simp] theorem plain_target (l : Link) : l.plain.target = l.target := by
  unfold plain
  split <;> rfl

@[simp] theorem plain_pair (l : Link) : l.plain.pair = l.pair := by
  simp [pair]

@[simp] theorem plain_isAnchored (l : Link) : l.plain.isAnchored = false := by
  unfold plain
  split
  · rfl
  · next h => simpa using h

theorem plain_of_not_isAnchored {l : Link} (h : l.isAnchored = false) : l.plain = l := by
  simp [plain, h]

end Link

namespace Diagram

/-! ### Links of collapsed boxes -/

section Steps

variable {touches : Link → Bool} {seen : List (String × String)} {l : Link} (ls : List Link)

theorem remapLinks_of_not_touches (hl : touches l = false) :
  remapLinks touches seen (l :: ls) = l :: remapLinks touches seen ls
  := by
  simp [remapLinks, hl]

theorem remapLinks_of_seen (hl : touches l = true) (hseen : l.pair ∈ seen) :
  remapLinks touches seen (l :: ls) = remapLinks touches seen ls
  := by
  simp [remapLinks, hl, hseen]

theorem remapLinks_of_not_seen (hl : touches l = true) (hseen : l.pair ∉ seen) :
  remapLinks touches seen (l :: ls) = l.plain :: remapLinks touches (l.pair :: seen) ls
  := by
  simp [remapLinks, hl, hseen]

end Steps

section Redrawing

variable {touches : Link → Bool} {seen : List (String × String)} {ls : List Link}

/-- No link is redrawn exactly if those that touch a collapsed box have no handles and each of them
is the first of its pair. -/
theorem redraws_eq_false_iff :
  redraws touches seen ls = false
    ↔ (∀ l ∈ ls, touches l = true → l.isAnchored = false ∧ l.pair ∉ seen)
      ∧ ((ls.filter touches).map Link.pair).Nodup
  := by
  induction ls generalizing seen with
  | nil => simp [redraws]
  | cons l ls ih =>
    cases hl : touches l with
    | false => simp [redraws, hl, ih]
    | true =>
      by_cases hseen : l.pair ∈ seen
      · simp [redraws, hl, hseen]
      · have hredraws : redraws touches seen (l :: ls)
            = (l.isAnchored || redraws touches (l.pair :: seen) ls) := by
          simp [redraws, hl, hseen]
        rw [hredraws, Bool.or_eq_false_iff, ih, List.filter_cons_of_pos hl, List.map_cons,
          List.nodup_cons, List.forall_mem_cons]
        simp only [List.mem_cons, List.mem_map, List.mem_filter]
        grind

/-- The links stay as they are if none is redrawn. -/
theorem remapLinks_of_not_redraws (h : redraws touches seen ls = false) :
  remapLinks touches seen ls = ls
  := by
  induction ls generalizing seen with
  | nil => rfl
  | cons l ls ih =>
    cases hl : touches l with
    | false =>
      rw [remapLinks_of_not_touches ls hl, ih]
      simpa [redraws, hl] using h
    | true =>
      obtain ⟨hseen, hplain, hrest⟩ : l.pair ∉ seen ∧ l.isAnchored = false
          ∧ redraws touches (l.pair :: seen) ls = false := by
        simpa [redraws, hl] using h
      rw [remapLinks_of_not_seen ls hl hseen, ih hrest, Link.plain_of_not_isAnchored hplain]

end Redrawing

theorem not_redraws_of_collapsed_eq_nil {d : Diagram} (h : d.collapsed = []) :
  redraws d.touchesCollapsed [] d.links = false
  := by
  have htouches : d.touchesCollapsed = fun _ => false := by
    funext l
    simp [touchesCollapsed, h]
  rw [redraws_eq_false_iff, htouches]
  simp

theorem remapped?_eq (d : Diagram) :
  d.remapped? = if redraws d.touchesCollapsed [] d.links
    then some { d with links := remapLinks d.touchesCollapsed [] d.links } else none
  := by
  by_cases hcollapsed : d.collapsed = []
  · simp [remapped?, hcollapsed, not_redraws_of_collapsed_eq_nil hcollapsed]
  · simp [remapped?, hcollapsed]

theorem remap_eq (d : Diagram) :
  d.remap = { d with links := remapLinks d.touchesCollapsed [] d.links }
  := by
  rw [remap, remapped?_eq]
  split
  · rfl
  · next hredraws =>
    rw [remapLinks_of_not_redraws (by simpa using hredraws)]
    rfl

theorem remap_links (d : Diagram) :
  d.remap.links = remapLinks d.touchesCollapsed [] d.links
  := by
  rw [remap_eq]

@[simp] theorem remap_boxes (d : Diagram) : d.remap.boxes = d.boxes := by
  rw [remap_eq]

@[simp] theorem remap_collapsed (d : Diagram) : d.remap.collapsed = d.collapsed := by
  simp [collapsed]

theorem touchesCollapsed_iff {d : Diagram} {l : Link} :
  d.touchesCollapsed l = true ↔ l.source ∈ d.collapsed ∨ l.target ∈ d.collapsed
  := by
  simp [touchesCollapsed]

@[simp] theorem touchesCollapsed_plain (d : Diagram) (l : Link) :
  d.touchesCollapsed l.plain = d.touchesCollapsed l
  := by
  simp [touchesCollapsed]

@[simp] theorem remap_touchesCollapsed (d : Diagram) :
  d.remap.touchesCollapsed = d.touchesCollapsed
  := by
  funext l
  simp [touchesCollapsed]

section Remapping

variable {touches : Link → Bool} {seen : List (String × String)} {ls : List Link}

/-- A link is drawn as it is if it touches nothing collapsed. Otherwise it is the plain link of
the first such link of its pair. -/
theorem mem_remapLinks {l : Link} :
  l ∈ remapLinks touches seen ls
    ↔ (l ∈ ls ∧ touches l = false)
      ∨ ∃ m, ls.find? (fun k => touches k && k.pair = m.pair) = some m
        ∧ m.pair ∉ seen ∧ l = m.plain
  := by
  induction ls generalizing seen with
  | nil => simp [remapLinks]
  | cons k ks ih =>
    cases hk : touches k with
    | false =>
      rw [remapLinks_of_not_touches ks hk, List.mem_cons, ih]
      simp only [List.find?_cons, hk, Bool.false_and, List.mem_cons]
      grind
    | true =>
      have hfind : ∀ m, (k :: ks).find? (fun k => touches k && k.pair = m.pair) = some m
          ↔ m = k ∨ k.pair ≠ m.pair ∧ ks.find? (fun k => touches k && k.pair = m.pair) = some m := by
        intro m
        by_cases hpair : k.pair = m.pair
        · simp [hk, hpair, eq_comm]
        · have hne : m ≠ k := by
            rintro rfl
            exact hpair rfl
          simp [hpair, hne]
      simp only [hfind, List.mem_cons]
      by_cases hseen : k.pair ∈ seen
      · rw [remapLinks_of_seen ks hk hseen, ih]
        grind
      · rw [remapLinks_of_not_seen ks hk hseen, List.mem_cons, ih]
        grind

theorem mem_pairs_of_mem_remapLinks {l : Link} (h : l ∈ remapLinks touches seen ls) :
  l.pair ∈ ls.map Link.pair
  := by
  rcases mem_remapLinks.mp h with ⟨hl, -⟩ | ⟨m, hm, -, rfl⟩
  · apply List.mem_map_of_mem hl
  · rw [Link.plain_pair]
    apply List.mem_map_of_mem (List.mem_of_find?_eq_some hm)

/-- A link that touches a collapsed box is not fixed to a column. -/
theorem not_isAnchored_of_mem_remapLinks {l : Link} (h : l ∈ remapLinks touches seen ls)
    (hl : touches l = true) :
  l.isAnchored = false
  := by
  rcases mem_remapLinks.mp h with ⟨-, hfalse⟩ | ⟨m, -, -, rfl⟩
  · simp [hl] at hfalse
  · apply Link.plain_isAnchored

/-- No pair is drawn twice if it touches a collapsed box, and none that is seen already. -/
theorem nodup_pairs_remapLinks (htouches : ∀ l, touches l.plain = touches l)
    (seen : List (String × String)) (ls : List Link) :
  (((remapLinks touches seen ls).filter touches).map Link.pair).Nodup
    ∧ ∀ pair ∈ ((remapLinks touches seen ls).filter touches).map Link.pair, pair ∉ seen
  := by
  induction ls generalizing seen with
  | nil => simp [remapLinks]
  | cons l ls ih =>
    cases hl : touches l with
    | false => simpa [remapLinks_of_not_touches ls hl, hl] using ih seen
    | true =>
      by_cases hseen : l.pair ∈ seen
      · rw [remapLinks_of_seen ls hl hseen]
        exact ih seen
      · obtain ⟨hnodup, hfresh⟩ := ih (l.pair :: seen)
        rw [remapLinks_of_not_seen ls hl hseen, List.filter_cons_of_pos (by rwa [htouches]),
          List.map_cons, Link.plain_pair, List.nodup_cons]
        refine ⟨⟨?_, hnodup⟩, ?_⟩
        · intro hmem
          apply hfresh _ hmem
          simp
        · intro pair hpair
          rcases List.mem_cons.mp hpair with rfl | hpair
          · exact hseen
          · intro hmem
            apply hfresh pair hpair
            simp [hmem]

end Remapping

/-! ### Parts -/

/-- A diagram is part of another one if it has some of its boxes and links, in their order. -/
structure IsPart (d e : Diagram) : Prop where
  boxes : d.boxes.Sublist e.boxes
  links : d.links.Sublist e.links

namespace IsPart

@[refl] theorem refl (d : Diagram) : IsPart d d :=
  ⟨List.Sublist.refl _, List.Sublist.refl _⟩

theorem trans {d e f : Diagram} (h : IsPart d e) (h' : IsPart e f) : IsPart d f :=
  ⟨h.boxes.trans h'.boxes, h.links.trans h'.links⟩

theorem empty (d : Diagram) : IsPart {} d :=
  ⟨List.nil_sublist _, List.nil_sublist _⟩

/-- The collapsed boxes of a part are collapsed in the whole. -/
theorem collapsed {d e : Diagram} (h : IsPart d e) : d.collapsed.Sublist e.collapsed :=
  (h.boxes.filter _).map _

end IsPart

theorem keep_isPart (d : Diagram) (p : Box → Bool) : IsPart (d.keep p) d :=
  ⟨List.filter_sublist, List.filter_sublist⟩

theorem within_eq (d : Diagram) (scope : Scope) :
  d.within scope = if scope.isActive then d.keep scope.holds else d
  := by
  simp only [within, within?]
  split <;> rfl

theorem within_isPart (d : Diagram) (scope : Scope) : IsPart (d.within scope) d := by
  rw [within_eq]
  split
  · apply keep_isPart
  · apply IsPart.refl

theorem connectedTo_eq (d : Diagram) (s : Selection) :
  d.connectedTo s =
    if s.labels.isEmpty then d
    else if (d.selected s).isEmpty then {}
    else d.highlighting
      (Reach.connectedToAny d.links s.direction (d.selectedElements s) ++ d.selected s)
  := by
  simp only [connectedTo, connectedTo?]
  split
  · rfl
  · split <;> rfl

theorem connectedTo_isPart (d : Diagram) (s : Selection) : IsPart (d.connectedTo s) d := by
  rw [connectedTo_eq]
  split
  · apply IsPart.refl
  · split
    · apply IsPart.empty
    · apply keep_isPart

/-! ### Loose links -/

theorem fits_iff {handles : List String} {handle : Option String} :
  fits handles handle = true ↔ ∀ h, Text.filled handle = some h → h ∈ handles
  := by
  cases h : Text.filled handle <;> simp [fits, h]

theorem resolves_iff {d : Diagram} {l : Link} :
  d.resolves l = true
    ↔ (l.source ∈ d.boxIds ∧ l.target ∈ d.boxIds)
      ∧ (∀ h, Text.filled l.sourceHandle = some h → h ∈ d.handlesOf l.source)
      ∧ ∀ h, Text.filled l.targetHandle = some h → h ∈ d.handlesOf l.target
  := by
  simp [resolves, fits_iff, and_assoc]

theorem prune_eq (d : Diagram) :
  d.prune = { d with links := d.links.filter d.resolves }
  := by
  by_cases h : d.links.all d.resolves = true
  · have hall : d.links.filter d.resolves = d.links := by simpa using h
    simp [prune, pruned?, h, hall]
  · simp [prune, pruned?, h]

theorem prune_isPart (d : Diagram) : IsPart d.prune d := by
  rw [prune_eq]
  exact ⟨List.Sublist.refl _, List.filter_sublist⟩

end Diagram

end Lineage
