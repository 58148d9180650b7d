import Lineage.Proofs.Reach
import Mathlib.Data.List.Chain
import Mathlib.Data.Set.Lattice
import Mathlib.Order.Bounds.Basic

/-!
# Paths

A trace takes a `Step` from an element onto a link that leaves it, and from there to the element
that the link reaches. What is connected to an element is what such steps lead to, however many
there are.

A path lists the stops that steps lead along. Elements and links take turns on it, so every second
stop is of the other kind than the first one, and `hops` counts the least number of these. From an
element, they are links: one hop is one link. From a link, they are elements, and a link is as many
hops away as the element that it leaves. A path going backward is a path going forward, taken back,
so two elements are equally far from each other in the two directions.
-/

namespace Lineage

/-- Whether a stop is a link. -/
def Stop.isLink : Stop → Bool
  | node _ => false
  | link _ => true

@[simp] theorem Stop.isLink_node (id : String) : (node id).isLink = false := rfl

@[simp] theorem Stop.isLink_link (id : String) : (link id).isLink = true := rfl

namespace Reach

/-! ### Steps -/

/-- A step along the links. -/
inductive Step (links : List Link) : Stop → Stop → Prop where
  | onto {l : Link} (hl : l ∈ links) : Step links (.node l.sourceElement) (.link l.id)
  | off {l : Link} (hl : l ∈ links) : Step links (.link l.id) (.node l.targetElement)

/-- A step in a direction: one along the links, taken back when going backward. -/
def StepIn (direction : Direction) (links : List Link) (s t : Stop) : Prop :=
  match direction with
  | .backward => Step links t s
  | _ => Step links s t

variable {links : List Link} {direction : Direction}

theorem mem_steps_iff_step {s t : Stop} :
  (s, t) ∈ Reach.steps links ↔ Step links s t
  := by
  rw [mem_steps]
  constructor
  · rintro ⟨l, hl, ⟨rfl, rfl⟩ | ⟨rfl, rfl⟩⟩
    · apply Step.onto hl
    · apply Step.off hl
  · rintro (hl | hl)
    · exact ⟨_, hl, Or.inl ⟨rfl, rfl⟩⟩
    · exact ⟨_, hl, Or.inr ⟨rfl, rfl⟩⟩

theorem mem_stepsIn {s t : Stop} :
  (s, t) ∈ stepsIn direction links ↔ StepIn direction links s t
  := by
  cases direction with
  | backward => simp [stepsIn, StepIn, mem_steps_iff_step]
  | forward => exact mem_steps_iff_step
  | both => exact mem_steps_iff_step

/-- Every step leads from an element to a link or from a link to an element. -/
theorem StepIn.isLink_eq {s t : Stop} (h : StepIn direction links s t) :
  t.isLink = !s.isLink
  := by
  have hstep : ∀ {s t : Stop}, Step links s t → t.isLink = !s.isLink := by
    intro s t h
    cases h with
    | onto => rfl
    | off => rfl
  cases direction with
  | backward => simp [hstep h]
  | forward => exact hstep h
  | both => exact hstep h

/-! ### Reach -/

/-- Steps lead from one stop to another one if a walk does. -/
theorem reflTransGen_iff_walk {s t : Stop} :
  Relation.ReflTransGen (StepIn direction links) s t ↔ ∃ n, Walk (stepsIn direction links) s t n
  := by
  constructor
  · intro h
    induction h with
    | refl => exact ⟨0, Walk.here⟩
    | tail _ hstep ih =>
      obtain ⟨n, hwalk⟩ := ih
      exact ⟨n + 1, Walk.step hwalk (mem_stepsIn.mpr hstep)⟩
  · rintro ⟨n, h⟩
    induction h with
    | here => exact Relation.ReflTransGen.refl
    | step _ hstep ih => exact ih.tail (mem_stepsIn.mp hstep)

/-- An id names the link that has it, or else the element of that id at the end of a link. -/
theorem stop?_eq_some_iff {id : String} {stop : Stop} :
  stop? links id = some stop
    ↔ (id ∈ links.map Link.id ∧ stop = .link id)
      ∨ (id ∉ links.map Link.id ∧ (∃ l ∈ links, l.sourceElement = id ∨ l.targetElement = id)
        ∧ stop = .node id)
  := by
  by_cases hid : id ∈ links.map Link.id
  · have hstop : stop? links id = some (.link id) := by
      have hlink : links.any (·.id = id) = true := by simpa using hid
      rw [stop?, if_pos hlink]
    simp only [hstop, hid, Option.some.injEq, true_and, not_true_eq_false, false_and, or_false]
    exact eq_comm
  · rw [stop?_of_not_mem hid]
    simp [hid, eq_comm]

theorem mem_connected_one_way (hdirection : direction ≠ .both) {start x : String} :
  x ∈ connected links direction start
    ↔ x = start ∨ ∃ stop t, stop? links start = some stop
      ∧ Relation.ReflTransGen (StepIn direction links) stop t ∧ t.id = x
  := by
  simp only [mem_connected, reflTransGen_iff_walk]
  cases direction with
  | backward => grind
  | forward => grind
  | both => exact absurd rfl hdirection

/-- What is connected to an element in one direction is the element and all that steps in the
direction lead to, and going both ways is going each way on its own. -/
theorem connected_eq_reachable (links : List Link) (start : String) :
  (∀ stop, stop? links start = some stop
    ↔ (start ∈ links.map Link.id ∧ stop = .link start)
      ∨ (start ∉ links.map Link.id
        ∧ (∃ l ∈ links, l.sourceElement = start ∨ l.targetElement = start) ∧ stop = .node start))
  ∧ (∀ stop, stop? links start = some stop → ∀ direction ≠ Direction.both,
    {x | x ∈ connected links direction start}
      = insert start (Stop.id '' {t | Relation.ReflTransGen (StepIn direction links) stop t}))
  ∧ (stop? links start = none → ∀ direction, {x | x ∈ connected links direction start} = {start})
  ∧ {x | x ∈ connected links .both start}
    = {x | x ∈ connected links .forward start} ∪ {x | x ∈ connected links .backward start}
  ∧ ∀ direction starts, {x | x ∈ connectedToAny links direction starts}
    = ⋃ s ∈ starts, {x | x ∈ connected links direction s}
  := by
  refine ⟨fun stop => stop?_eq_some_iff, ?_, ?_, ?_, ?_⟩
  · intro stop hstop direction hdirection
    ext x
    simp [mem_connected_one_way hdirection, hstop]
  · intro hnone direction
    simp [connected, hnone]
  · ext x
    simp only [Set.mem_union, Set.mem_ofPred_eq, mem_connected]
    grind
  · intro direction starts
    ext x
    simp [connectedToAny]

/-- Two links have the same id, two join the same elements, one returns to the element that it
leaves, and all of them are on a way round. -/
def tangle : List Link :=
  [{ id := "e", source := "a", target := "b" },
   { id := "e", source := "b", target := "c" },
   { id := "f", source := "c", target := "a" },
   { id := "g", source := "c", target := "a" },
   { id := "h", source := "a", target := "a" }]

/-- The id `e` names both links that have it as one stop, and `d` names nothing. -/
theorem connected_eq_reachable_tangle :
  stop? tangle "e" = some (.link "e")
  ∧ {x | x ∈ connected tangle .backward "e"}
    = insert "e" (Stop.id '' {t | Relation.ReflTransGen (StepIn .backward tangle) (.link "e") t})
  ∧ stop? tangle "d" = none
  ∧ {x | x ∈ connected tangle .both "d"} = {"d"}
  := by
  have hlink : stop? tangle "e" = some (.link "e") := by decide
  have hnone : stop? tangle "d" = none := by decide
  obtain ⟨-, hreachable, -⟩ := connected_eq_reachable tangle "e"
  obtain ⟨-, -, halone, -⟩ := connected_eq_reachable tangle "d"
  exact ⟨hlink, hreachable _ hlink .backward (by decide), hnone, halone hnone .both⟩

/-! ### Paths -/

/-- A path from one stop to another one lists the stops that steps in a direction lead along. -/
structure IsPath (direction : Direction) (links : List Link) (s t : Stop) (path : List Stop) :
    Prop where
  first : path.head? = some s
  last : path.getLast? = some t
  chain : path.IsChain (StepIn direction links)

variable {s t : Stop} {n : Nat} {path : List Stop}

theorem IsPath.exists_walk (h : IsPath direction links s t path) :
  ∃ n, Walk (stepsIn direction links) s t n ∧ path.length = n + 1
  := by
  induction path generalizing s with
  | nil => cases h.first
  | cons u path ih =>
    obtain ⟨hfirst, hlast, hchain⟩ := h
    obtain rfl : u = s := by simpa using hfirst
    cases path with
    | nil =>
      obtain rfl : u = t := by simpa using hlast
      exact ⟨0, Walk.here, rfl⟩
    | cons v path =>
      obtain ⟨hstep, hchain⟩ := List.isChain_cons_cons.mp hchain
      obtain ⟨n, hwalk, hlength⟩ := ih ⟨rfl, hlast, hchain⟩
      exact ⟨n + 1, Walk.cons (mem_stepsIn.mpr hstep) hwalk, by simp [hlength]⟩

theorem Walk.exists_path (h : Walk (stepsIn direction links) s t n) :
  ∃ path, IsPath direction links s t path ∧ path.length = n + 1
  := by
  induction h with
  | here => exact ⟨[s], ⟨rfl, rfl, List.isChain_singleton s⟩, rfl⟩
  | @step t u n _ hstep ih =>
    obtain ⟨path, ⟨hfirst, hlast, hchain⟩, hlength⟩ := ih
    refine ⟨path ++ [u], ⟨by simp [hfirst], by simp, ?_⟩, by simp [hlength]⟩
    apply hchain.append (List.isChain_singleton u)
    intro v hv w hw
    obtain rfl : v = t := by simpa [hlast, eq_comm] using hv
    obtain rfl : w = u := by simpa [eq_comm] using hw
    exact mem_stepsIn.mp hstep

/-- Every second stop of a path is of the other kind than the first one. -/
theorem IsPath.countP_isLink (h : IsPath direction links s t path) :
  path.countP (·.isLink != s.isLink) = path.length / 2
  := by
  induction path generalizing s with
  | nil => rfl
  | cons u path ih =>
    obtain ⟨hfirst, hlast, hchain⟩ := h
    obtain rfl : u = s := by simpa using hfirst
    cases path with
    | nil => simp
    | cons v path =>
      obtain ⟨hstep, hchain⟩ := List.isChain_cons_cons.mp hchain
      have hrest := ih ⟨rfl, hlast, hchain⟩
      -- the first two stops differ, so every other stop is unlike exactly one of them
      have hkinds : (v :: path).countP (·.isLink != u.isLink)
          = (v :: path).length - (v :: path).countP (·.isLink != v.isLink) := by
        have hall := List.length_eq_countP_add_countP (·.isLink != v.isLink) (l := v :: path)
        have hother : (v :: path).countP (fun w => ¬(w.isLink != v.isLink) = true)
            = (v :: path).countP (·.isLink != u.isLink) := by
          apply List.countP_congr
          intro w _
          rw [hstep.isLink_eq]
          cases w.isLink <;> cases u.isLink <;> simp
        omega
      rw [List.countP_cons_of_neg (by simp), hkinds, hrest]
      simp only [List.length_cons]
      omega

/-- The least number of stops of the other kind than the start, on a path to a stop at some
distance. -/
theorem Nearest.isLeast (h : Nearest (stepsIn direction links) s t n) :
  IsLeast {k | ∃ path, IsPath direction links s t path
    ∧ path.countP (·.isLink != s.isLink) = k} (linksOn n)
  := by
  constructor
  · obtain ⟨path, hpath, hlength⟩ := h.walk.exists_path
    exact ⟨path, hpath, by rw [hpath.countP_isLink, hlength, linksOn]⟩
  · rintro k ⟨path, hpath, rfl⟩
    obtain ⟨m, hwalk, hlength⟩ := hpath.exists_walk
    have hle := h.least m hwalk
    rw [hpath.countP_isLink, hlength, linksOn]
    omega

/-! ### Hops from an element -/

/-- The stops that are some hops away are those that steps lead to, but for the start. -/
theorem mem_stops_hops {start : String} :
  t ∈ (hops links direction start).map Prod.fst
    ↔ ∃ stop, stop? links start = some stop ∧ t ≠ stop
      ∧ Relation.ReflTransGen (StepIn direction links) stop t
  := by
  simp only [reflTransGen_iff_walk]
  constructor
  · intro ht
    obtain ⟨⟨t, h⟩, hmem, rfl⟩ := List.mem_map.mp ht
    obtain ⟨stop, n, hstop, hne, hnearest, -⟩ := mem_hops.mp hmem
    exact ⟨stop, hstop, hne, n, hnearest.walk⟩
  · rintro ⟨stop, hstop, hne, m, hwalk⟩
    obtain ⟨n, -, hnearest⟩ := hwalk.exists_nearest
    exact List.mem_map.mpr ⟨(t, linksOn n), mem_hops.mpr ⟨stop, n, hstop, hne, hnearest, rfl⟩, rfl⟩

/-- From an element, the hops to a stop count the links on a path with the fewest of them. -/
theorem hops_isLeast {start : String} (hstart : start ∉ links.map Link.id) (direction : Direction) :
  ((hops links direction start).map Prod.fst).Nodup
  ∧ (∀ t, t ∈ (hops links direction start).map Prod.fst
    ↔ t ≠ .node start ∧ ∃ path, IsPath direction links (.node start) t path)
  ∧ ∀ t h, (t, h) ∈ hops links direction start
    → IsLeast {k | ∃ path, IsPath direction links (.node start) t path
      ∧ path.countP Stop.isLink = k} h
  := by
  refine ⟨nodup_hops links direction start, ?_, ?_⟩
  · intro t
    rw [mem_stops_hops]
    constructor
    · rintro ⟨stop, hstop, hne, hsteps⟩
      obtain rfl := eq_node_of_stop? hstart hstop
      obtain ⟨n, hwalk⟩ := reflTransGen_iff_walk.mp hsteps
      obtain ⟨path, hpath, -⟩ := hwalk.exists_path
      exact ⟨hne, path, hpath⟩
    · rintro ⟨hne, path, hpath⟩
      obtain ⟨n, hwalk, -⟩ := hpath.exists_walk
      exact ⟨.node start, stop?_of_walk hstart hwalk hne, hne, reflTransGen_iff_walk.mpr ⟨n, hwalk⟩⟩
  · intro t h hmem
    obtain ⟨stop, n, hstop, -, hnearest, rfl⟩ := mem_hops.mp hmem
    obtain rfl := eq_node_of_stop? hstart hstop
    simpa using hnearest.isLeast

/-- Going backward from `a`, the element `b` is two hops away, over the link `e` that leaves `b` and
reaches `c`. -/
theorem hops_isLeast_tangle :
  "a" ∉ tangle.map Link.id
  ∧ (Stop.node "b", 2) ∈ hops tangle .backward "a"
  ∧ IsLeast {k | ∃ path, IsPath .backward tangle (.node "a") (.node "b") path
    ∧ path.countP Stop.isLink = k} 2
  := by
  have hstart : "a" ∉ tangle.map Link.id := by decide
  have hmem : (Stop.node "b", 2) ∈ hops tangle .backward "a" := by decide
  obtain ⟨-, -, hleast⟩ := hops_isLeast hstart .backward
  exact ⟨hstart, hmem, hleast _ _ hmem⟩

/-- Going forward from one element to another one takes as many hops as going backward from the other
one to it, and there is a way exactly if there is a way back. -/
theorem hops_forward_iff_backward {a b : String} (ha : a ∉ links.map Link.id)
    (hb : b ∉ links.map Link.id) (hne : a ≠ b) (h : Nat) :
  (hops links .forward a).lookup (.node b) = some h
    ↔ (hops links .backward b).lookup (.node a) = some h
  := by
  rw [lookup_hops_node ha hne, lookup_hops_node hb hne.symm]
  have hback : ∀ n, Nearest (stepsIn .backward links) (.node b) (.node a) n
      ↔ Nearest (stepsIn .forward links) (.node a) (.node b) n := by
    intro n
    apply nearest_swap
  simp only [hback]

/-- The shortest way from `a` to `c` goes over the link `e` alone, since `e` reaches `c` whichever
element it is taken from. -/
theorem hops_forward_iff_backward_tangle :
  "a" ∉ tangle.map Link.id ∧ "c" ∉ tangle.map Link.id
  ∧ (hops tangle .forward "a").lookup (.node "c") = some 1
  ∧ (hops tangle .backward "c").lookup (.node "a") = some 1
  := by
  have ha : "a" ∉ tangle.map Link.id := by decide
  have hc : "c" ∉ tangle.map Link.id := by decide
  have hforward : (hops tangle .forward "a").lookup (.node "c") = some 1 := by decide
  use ha, hc, hforward
  apply (hops_forward_iff_backward ha hc (by decide) 1).mp hforward

/-! ### Hops over a link -/

/-- The hops from an element or link to a stop, none to the stop that it is itself. -/
def hopsTo (links : List Link) (direction : Direction) (start : String) (t : Stop) : Option Nat :=
  if stop? links start = some t then some 0 else (hops links direction start).lookup t

theorem hopsTo_eq_some_iff {start : String} {h : Nat} :
  hopsTo links direction start t = some h
    ↔ ∃ stop n, stop? links start = some stop ∧ Nearest (stepsIn direction links) stop t n
      ∧ h = linksOn n
  := by
  by_cases hstop : stop? links start = some t
  · have hhere : Nearest (stepsIn direction links) t t 0 := ⟨Walk.here, fun _ _ => Nat.zero_le _⟩
    rw [hopsTo, if_pos hstop]
    constructor
    · rintro ⟨rfl⟩
      exact ⟨t, 0, hstop, hhere, rfl⟩
    · rintro ⟨stop, n, hstop', hnearest, rfl⟩
      obtain rfl : t = stop := Option.some.inj (hstop.symm.trans hstop')
      rw [hnearest.unique hhere, linksOn]
  · rw [hopsTo, if_neg hstop, lookup_hops]
    constructor
    · rintro ⟨stop, n, hstop', -, hnearest, rfl⟩
      exact ⟨stop, n, hstop', hnearest, rfl⟩
    · rintro ⟨stop, n, hstop', hnearest, rfl⟩
      refine ⟨stop, n, hstop', ?_, hnearest, rfl⟩
      rintro rfl
      exact hstop hstop'

/-- Elements and links take turns on a walk. -/
theorem Walk.isLink_eq (h : Walk (stepsIn direction links) s t n) :
  t.isLink = (s.isLink != decide (n % 2 = 1))
  := by
  induction h with
  | here => simp
  | @step _ _ n _ hstep ih =>
    rw [(mem_stepsIn.mp hstep).isLink_eq, ih]
    rcases Nat.mod_two_eq_zero_or_one n with hn | hn
    · simp [Nat.add_mod, hn]
    · simp [Nat.add_mod, hn]

theorem isLink_of_stop? {start : String} {stop : Stop} (h : stop? links start = some stop) :
  stop.isLink = true ↔ start ∈ links.map Link.id
  := by
  rcases stop?_eq_some_iff.mp h with ⟨hid, rfl⟩ | ⟨hid, -, rfl⟩
  · exact iff_of_true rfl hid
  · exact iff_of_false (by simp) hid

/-- A link that is reached is one step after the element that it leaves, and at most one step before
the element that it reaches. If links shared ids, it could be reached from the source of another
one. -/
theorem exists_nearest_ends (hids : (links.map Link.id).Nodup) {start : String} {l : Link}
    (hl : l ∈ links) (hreached : .link l.id ∈ (hops links .forward start).map Prod.fst) :
  ∃ stop n, stop? links start = some stop
    ∧ Nearest (stepsIn .forward links) stop (.node l.sourceElement) n
    ∧ Nearest (stepsIn .forward links) stop (.link l.id) (n + 1)
    ∧ ∃ m ≤ n + 2, Nearest (stepsIn .forward links) stop (.node l.targetElement) m
  := by
  obtain ⟨⟨t, h⟩, hmem, ht⟩ := List.mem_map.mp hreached
  obtain rfl : t = .link l.id := ht
  obtain ⟨stop, n, hstop, hne, hnearest, -⟩ := mem_hops.mp hmem
  obtain ⟨n, rfl⟩ : ∃ k, n = k + 1 := by
    cases n with
    | zero =>
      cases hnearest.walk
      exact absurd rfl hne
    | succ k => exact ⟨k, rfl⟩
  obtain ⟨s, hs, hstep⟩ := hnearest.pred
  obtain rfl : s = .node l.sourceElement := eq_near_of_step hids hl hstep
  have hoff : (Stop.link l.id, Stop.node l.targetElement) ∈ stepsIn .forward links :=
    mem_stepsIn.mpr (Step.off hl)
  obtain ⟨m, hm, htarget⟩ := (Walk.step hnearest.walk hoff).exists_nearest
  exact ⟨stop, n, hstop, hs, hnearest, m, hm, htarget⟩

/-- Whether one link is one hop: the link is one hop further than the element that it leaves, and
the element that it reaches is not further than the link. -/
def IsOneHop (links : List Link) (start : String) (l : Link) : Prop :=
  ∃ m n, hopsTo links .forward start (.node l.sourceElement) = some m
    ∧ hopsTo links .forward start (.link l.id) = some (m + 1)
    ∧ hopsTo links .forward start (.node l.targetElement) = some n ∧ n ≤ m + 1

/-- One link is one hop exactly if the hops are not counted from a link. From a link, it is the
element that a link reaches which may be one hop further, and the link is as far as the element that
it leaves. -/
theorem isOneHop_iff (hids : (links.map Link.id).Nodup) {start : String} {l : Link}
    (hl : l ∈ links) (hreached : .link l.id ∈ (hops links .forward start).map Prod.fst) :
  (IsOneHop links start l ↔ start ∉ links.map Link.id)
  ∧ (start ∈ links.map Link.id →
    ∃ m n, hopsTo links .forward start (.node l.sourceElement) = some m
      ∧ hopsTo links .forward start (.link l.id) = some m
      ∧ hopsTo links .forward start (.node l.targetElement) = some n ∧ n ≤ m + 1)
  := by
  obtain ⟨stop, n, hstop, hsource, hlink, m, hm, htarget⟩ := exists_nearest_ends hids hl hreached
  have hto : ∀ {t k}, Nearest (stepsIn .forward links) stop t k
      → hopsTo links .forward start t = some (linksOn k) :=
    fun hnearest => hopsTo_eq_some_iff.mpr ⟨stop, _, hstop, hnearest, rfl⟩
  have hturn := hlink.walk.isLink_eq
  have hstart := isLink_of_stop? hstop
  cases hkind : stop.isLink with
  | false =>
    have hodd : (n + 1) % 2 = 1 := by simpa [hkind] using hturn
    have hmem : start ∉ links.map Link.id := by simp [← hstart, hkind]
    refine ⟨⟨fun _ => hmem, fun _ => ?_⟩, fun h => absurd h hmem⟩
    refine ⟨linksOn n, linksOn m, hto hsource, ?_, hto htarget, ?_⟩
    · rw [hto hlink, Option.some.injEq, linksOn, linksOn]
      omega
    · rw [linksOn, linksOn]
      omega
  | true =>
    have heven : (n + 1) % 2 ≠ 1 := by simpa [hkind] using hturn
    have hmem : start ∈ links.map Link.id := hstart.mp hkind
    have hsame : linksOn (n + 1) = linksOn n := by
      rw [linksOn, linksOn]
      omega
    refine ⟨⟨?_, fun h => absurd hmem h⟩, fun _ => ?_⟩
    · rintro ⟨k, _, hk, hk', -⟩
      rw [hto hsource, Option.some.injEq] at hk
      rw [hto hlink, hsame, Option.some.injEq] at hk'
      omega
    · refine ⟨linksOn n, linksOn m, hto hsource, ?_, hto htarget, ?_⟩
      · rw [hto hlink, hsame]
      · rw [linksOn, linksOn]
        omega

/-- Links lead from `a` over `b` to `c` and back. -/
def circuit : List Link :=
  [{ id := "e", source := "a", target := "b" },
   { id := "f", source := "b", target := "c" },
   { id := "g", source := "c", target := "a" }]

/-- From `a`, the last link of the circuit is three hops away, one more than the element `c` that it
leaves, and it reaches the start. From the first link, the last one is as far as `c`. -/
theorem isOneHop_iff_circuit :
  (circuit.map Link.id).Nodup
  ∧ IsOneHop circuit "a" { id := "g", source := "c", target := "a" }
  ∧ ∃ m n, hopsTo circuit .forward "e" (.node "c") = some m
    ∧ hopsTo circuit .forward "e" (.link "g") = some m
    ∧ hopsTo circuit .forward "e" (.node "a") = some n ∧ n ≤ m + 1
  := by
  have hids : (circuit.map Link.id).Nodup := by decide
  have hl : { id := "g", source := "c", target := "a" } ∈ circuit := by decide
  refine ⟨hids, ?_, ?_⟩
  · apply (isOneHop_iff hids hl (by decide)).1.mpr
    decide
  · apply (isOneHop_iff hids hl (by decide)).2
    decide

/-- Counted from the link `e`, the link `f` is as far as the element `b` that it leaves, and the
element `c` that it reaches is further. -/
theorem hops_not_isOneHop :
  (circuit.map Link.id).Nodup
  ∧ .link "f" ∈ (hops circuit .forward "e").map Prod.fst
  ∧ hopsTo circuit .forward "e" (.node "b") = some 1
  ∧ hopsTo circuit .forward "e" (.link "f") = some 1
  ∧ hopsTo circuit .forward "e" (.node "c") = some 2
  ∧ ¬IsOneHop circuit "e" { id := "f", source := "b", target := "c" }
  := by
  have hsource : hopsTo circuit .forward "e" (.node "b") = some 1 := by decide
  have hlink : hopsTo circuit .forward "e" (.link "f") = some 1 := by decide
  refine ⟨by decide, by decide, hsource, hlink, by decide, ?_⟩
  rintro ⟨m, n, hm, hm', -⟩
  obtain rfl : 1 = m := Option.some.inj (hsource.symm.trans hm)
  cases hlink.symm.trans hm'

end Reach

end Lineage
