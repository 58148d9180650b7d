import Lineage.Proofs.Scoping

/-!
# Redrawing the links of collapsed boxes

A collapsed box hides its columns, so its links are redrawn: every pair of boxes of which one is
collapsed has one plain link left, which stands for the first link of the pair. All other links
stay, and so does the whole diagram if there is nothing to redraw. After redrawing, there is not.
-/

namespace Lineage

/-- Whether a link stands for another one of its pair: it says the same and has no handles. If the
other one has no handles to lose, it is the same link, and otherwise it has the id of the pair. -/
structure Link.StandsFor (m l : Link) : Prop where
  pair : m.pair = l.pair
  label : m.label = l.label
  flow : m.flow = l.flow
  handles : Text.filled m.sourceHandle = none ∧ Text.filled m.targetHandle = none
  same : l.isAnchored = false → m = l
  id : l.isAnchored = true → m.id = Link.pairId l.source l.target

theorem Link.plain_standsFor (l : Link) : l.plain.StandsFor l := by
  have hhandles := isAnchored_eq_false_iff.mp l.plain_isAnchored
  cases hl : l.isAnchored with
  | false =>
    rw [plain_of_not_isAnchored hl] at hhandles ⊢
    exact ⟨rfl, rfl, rfl, hhandles, fun _ => rfl, by simp [hl]⟩
  | true =>
    refine ⟨l.plain_pair, ?_, ?_, hhandles, by simp [hl], ?_⟩
    · simp [plain, hl]
    · simp [plain, hl]
    · simp [plain, hl]

namespace Diagram

/-- Whether a diagram is another one with the links of collapsed boxes redrawn. -/
structure IsRedrawn (d e : Diagram) : Prop where
  boxes : e.boxes = d.boxes
  pairs : ∀ pair, pair ∈ e.pairs ↔ pair ∈ d.pairs
  /-- The links between boxes that are not collapsed stay as they are, in their order. -/
  rest : e.links.filter (fun l => l.source ∉ d.collapsed ∧ l.target ∉ d.collapsed)
    = d.links.filter fun l => l.source ∉ d.collapsed ∧ l.target ∉ d.collapsed
  /-- If one of two boxes is collapsed, one link is left of those from the first to the second. -/
  once : ∀ pair ∈ d.pairs, pair.1 ∈ d.collapsed ∨ pair.2 ∈ d.collapsed →
    ∃ l m, d.links.find? (·.pair = pair) = some l ∧ e.links.filter (·.pair = pair) = [m]
      ∧ m.StandsFor l

section Loop

variable {touches : Link → Bool} {seen : List (String × String)} {ls : List Link}

theorem filter_not_touches_remapLinks (htouches : ∀ l, touches l.plain = touches l) :
  (remapLinks touches seen ls).filter (fun l => !touches l) = ls.filter fun l => !touches l
  := by
  induction ls generalizing seen with
  | nil => rfl
  | cons l ls ih =>
    cases hl : touches l with
    | false => simp [remapLinks_of_not_touches ls hl, hl, ih]
    | true =>
      by_cases hseen : l.pair ∈ seen
      · simp [remapLinks_of_seen ls hl hseen, hl, ih]
      · simp [remapLinks_of_not_seen ls hl hseen, htouches, hl, ih]

/-- Of the links of a pair that touches a collapsed box, the first one is drawn, unless the pair is
seen already. -/
theorem filter_pair_remapLinks {pair : String × String}
    (htouches : ∀ l : Link, l.pair = pair → touches l = true) :
  (remapLinks touches seen ls).filter (·.pair = pair)
    = if pair ∈ seen then [] else ((ls.find? (·.pair = pair)).map Link.plain).toList
  := by
  -- once the pair is drawn it is among those seen, and the rest of the list adds nothing to it
  induction ls generalizing seen with
  | nil => simp [remapLinks]
  | cons l ls ih =>
    by_cases hpair : l.pair = pair
    · have hl := htouches l hpair
      by_cases hseen : l.pair ∈ seen
      · rw [remapLinks_of_seen ls hl hseen, ih]
        simp [← hpair, hseen]
      · rw [remapLinks_of_not_seen ls hl hseen, List.filter_cons_of_pos (by simpa using hpair), ih]
        simp [← hpair, hseen]
    · have hfind : (l :: ls).find? (·.pair = pair) = ls.find? (·.pair = pair) := by simp [hpair]
      rw [hfind]
      cases hl : touches l with
      | false =>
        rw [remapLinks_of_not_touches ls hl, List.filter_cons_of_neg (by simpa using hpair), ih]
      | true =>
        by_cases hseen : l.pair ∈ seen
        · rw [remapLinks_of_seen ls hl hseen, ih]
        · rw [remapLinks_of_not_seen ls hl hseen, List.filter_cons_of_neg (by simpa using hpair), ih]
          simp [Ne.symm hpair]

/-- What is drawn is not redrawn: the links that touch a collapsed box are plain, one of each
pair. -/
theorem not_redraws_remapLinks (htouches : ∀ l, touches l.plain = touches l) :
  redraws touches seen (remapLinks touches seen ls) = false
  := by
  obtain ⟨hnodup, hfresh⟩ := nodup_pairs_remapLinks htouches seen ls
  apply redraws_eq_false_iff.mpr
  refine ⟨?_, hnodup⟩
  intro l hl htouch
  constructor
  · apply not_isAnchored_of_mem_remapLinks hl htouch
  · apply hfresh
    apply List.mem_map_of_mem
    exact List.mem_filter.mpr ⟨hl, htouch⟩

/-- The links are as before exactly if none is redrawn. -/
theorem remapLinks_eq_self_iff (htouches : ∀ l, touches l.plain = touches l) :
  remapLinks touches seen ls = ls ↔ redraws touches seen ls = false
  := by
  constructor
  · intro h
    rw [← h]
    apply not_redraws_remapLinks htouches
  · apply remapLinks_of_not_redraws

end Loop

theorem remapped?_eq_none_iff {d : Diagram} :
  d.remapped? = none ↔ remapLinks d.touchesCollapsed [] d.links = d.links
  := by
  rw [remapLinks_eq_self_iff d.touchesCollapsed_plain, remapped?_eq]
  simp

theorem remap_remap (d : Diagram) : d.remap.remap = d.remap := by
  rw [remap_eq d.remap, remap_touchesCollapsed, remap_links,
    remapLinks_of_not_redraws (not_redraws_remapLinks d.touchesCollapsed_plain), ← remap_links]

theorem remap_isRedrawn (d : Diagram) : d.IsRedrawn d.remap := by
  constructor
  · apply remap_boxes
  · intro pair
    apply mem_pairs_remap
  · have hrest : (fun l : Link => decide (l.source ∉ d.collapsed ∧ l.target ∉ d.collapsed))
        = (!d.touchesCollapsed ·) := by
      funext l
      simp [touchesCollapsed]
    rw [hrest, remap_links]
    apply filter_not_touches_remapLinks d.touchesCollapsed_plain
  · intro pair hpair hcollapsed
    obtain ⟨k, hk, hkpair⟩ := List.mem_map.mp hpair
    have hfind : (d.links.find? (·.pair = pair)).isSome := by
      rw [List.find?_isSome]
      exact ⟨k, hk, by simpa using hkpair⟩
    obtain ⟨l, hl⟩ := Option.isSome_iff_exists.mp hfind
    have htouches : ∀ l : Link, l.pair = pair → d.touchesCollapsed l = true := by
      rintro l rfl
      exact touchesCollapsed_iff.mpr hcollapsed
    refine ⟨l, l.plain, hl, ?_, l.plain_standsFor⟩
    rw [remap_links, filter_pair_remapLinks htouches, hl]
    simp

/-- Redrawing the links of collapsed boxes keeps the boxes, the pairs that are linked and the links
between other boxes, and leaves one plain link of every pair with a collapsed box. Redrawing again
changes nothing. A diagram is left alone exactly if no box is collapsed or its links would be drawn
as they are. -/
theorem remap_settles (d : Diagram) :
  d.IsRedrawn d.remap
    ∧ d.remap.remap = d.remap
    ∧ (d.remapped? = none
      ↔ d.collapsed = [] ∨ remapLinks d.touchesCollapsed [] d.links = d.links)
  := by
  refine ⟨d.remap_isRedrawn, d.remap_remap, ?_⟩
  rw [remapped?_eq_none_iff]
  constructor
  · apply Or.inr
  · rintro (hcollapsed | hlinks)
    · apply remapLinks_of_not_redraws (not_redraws_of_collapsed_eq_nil hcollapsed)
    · exact hlinks

end Diagram

end Lineage
