import Lineage.Impact.Reach
import Lineage.Proofs.Keyed

/-!
# Exact reach

A `Walk` takes steps one after the other, and a stop is at the distance of the shortest walk
to it, `Nearest`. After a number of rounds, what is reached is a `Level`: the stops up to that
distance, each with its distance. No round is missing, since every round but the last one
reaches a new target of a step. Hence `distances` has a stop exactly if a walk ends there, with
the length of a shortest walk.

`connected` and `hops` are read off the distances. They depend on the links only through their
ids and the elements at their ends, in whatever order the links come.
-/

namespace Lineage.Reach

/-! ### Walks -/

/-- A walk from a start to a stop, of some number of steps. -/
inductive Walk (steps : List (Stop × Stop)) (start : Stop) : Stop → Nat → Prop where
  | here : Walk steps start start 0
  | step {t u : Stop} {n : Nat} (walk : Walk steps start t n) (h : (t, u) ∈ steps) :
      Walk steps start u (n + 1)

/-- A shortest walk from a start to a stop has some number of steps. -/
structure Nearest (steps : List (Stop × Stop)) (start t : Stop) (n : Nat) : Prop where
  walk : Walk steps start t n
  least : ∀ m, Walk steps start t m → n ≤ m

variable {steps : List (Stop × Stop)} {start : Stop}

/-- A walk can be taken wherever the steps from what it reaches can. -/
theorem Walk.restrict {steps' : List (Stop × Stop)} {n : Nat} {s t : Stop} (h : Walk steps s t n)
    (hsteps : ∀ {u v : Stop} {m : Nat}, Walk steps s u m → (u, v) ∈ steps → (u, v) ∈ steps') :
  Walk steps' s t n
  := by
  induction h with
  | here => apply Walk.here
  | step hwalk hstep ih => apply Walk.step ih (hsteps hwalk hstep)

/-- A walk can be taken wherever its steps can. -/
theorem Walk.mono {steps' : List (Stop × Stop)} (hsteps : ∀ s ∈ steps, s ∈ steps') {n : Nat}
    {s t : Stop} (h : Walk steps s t n) :
  Walk steps' s t n
  := h.restrict fun _ hstep => hsteps _ hstep

/-- There is a shortest walk where there is a walk. -/
theorem Walk.exists_nearest {n : Nat} {s t : Stop} (h : Walk steps s t n) :
  ∃ m ≤ n, Nearest steps s t m
  := by
  induction n using Nat.strongRecOn with
  | _ n ih =>
    by_cases hshort : ∃ m < n, Walk steps s t m
    · obtain ⟨m, hm, hwalk⟩ := hshort
      obtain ⟨k, hk, hnearest⟩ := ih m hm hwalk
      use k, by omega
    · use n, Nat.le_refl _, h
      intro m hm
      by_contra hlt
      apply hshort
      use m, by omega

theorem Nearest.unique {m n : Nat} {s t : Stop} (hm : Nearest steps s t m)
    (hn : Nearest steps s t n) :
  m = n
  := Nat.le_antisymm (hm.least n hn.walk) (hn.least m hm.walk)

/-- The last step of a shortest walk leaves a stop that is one step nearer. -/
theorem Nearest.pred {n : Nat} {s u : Stop} (h : Nearest steps s u (n + 1)) :
  ∃ t, Nearest steps s t n ∧ (t, u) ∈ steps
  := by
  obtain ⟨hwalk, hleast⟩ := h
  cases hwalk with
  | @step t _ _ hwalk hstep =>
    refine ⟨t, ⟨hwalk, ?_⟩, hstep⟩
    intro m hm
    have := hleast (m + 1) (Walk.step hm hstep)
    omega

/-- A shortest walk passes through every distance below its own. -/
theorem Nearest.exists_of_le {d n : Nat} {s t : Stop} (h : Nearest steps s t n) (hd : d ≤ n) :
  ∃ u, Nearest steps s u d
  := by
  induction n generalizing t with
  | zero =>
    obtain rfl : d = 0 := by omega
    use t
  | succ n ih =>
    rcases Nat.lt_or_eq_of_le hd with hlt | rfl
    · obtain ⟨u, hu, -⟩ := h.pred
      apply ih hu (by omega)
    · use t

/-- Every stop of a walk but the first one is the target of a step. -/
theorem Walk.eq_or_mem {n : Nat} {s t : Stop} (h : Walk steps s t n) :
  t = s ∨ t ∈ steps.map Prod.snd
  := by
  cases h with
  | here => exact Or.inl rfl
  | step _ hstep => exact Or.inr (List.mem_map_of_mem hstep)

/-- A walk that leads away from its start begins with a step. -/
theorem Walk.eq_or_exists {n : Nat} {s t : Stop} (h : Walk steps s t n) :
  t = s ∨ ∃ u, (s, u) ∈ steps
  := by
  induction h with
  | here => exact Or.inl rfl
  | @step t u n _ hstep ih =>
    rcases ih with rfl | hfirst
    · exact Or.inr ⟨u, hstep⟩
    · exact Or.inr hfirst

theorem Walk.cons {n : Nat} {s t u : Stop} (hstep : (s, t) ∈ steps) (h : Walk steps t u n) :
  Walk steps s u (n + 1)
  := by
  induction h with
  | here => apply Walk.step Walk.here hstep
  | step _ hlast ih => apply Walk.step ih hlast

/-- A walk against the steps is a walk along them, taken back. -/
theorem walk_swap {n : Nat} {s t : Stop} :
  Walk (steps.map Prod.swap) s t n ↔ Walk steps t s n
  := by
  have hback : ∀ {steps : List (Stop × Stop)} {s t : Stop}, Walk steps s t n →
      Walk (steps.map Prod.swap) t s n := by
    intro steps s t h
    induction h with
    | here => apply Walk.here
    | step _ hstep ih =>
      apply Walk.cons _ ih
      exact List.mem_map.mpr ⟨_, hstep, rfl⟩
  constructor
  · intro h
    simpa using hback h
  · apply hback

/-- A shortest walk against the steps is a shortest walk along them, taken back. -/
theorem nearest_swap {n : Nat} {s t : Stop} :
  Nearest (steps.map Prod.swap) s t n ↔ Nearest steps t s n
  := by
  constructor
  · rintro ⟨hwalk, hleast⟩
    use walk_swap.mp hwalk
    intro m hm
    apply hleast m (walk_swap.mpr hm)
  · rintro ⟨hwalk, hleast⟩
    use walk_swap.mpr hwalk
    intro m hm
    apply hleast m (walk_swap.mp hm)

/-! ### Levels -/

/-- What is reached in some number of rounds: the stops up to that distance, once each. -/
structure Level (steps : List (Stop × Stop)) (start : Stop) (d : Nat)
    (reached : List (Stop × Nat)) : Prop where
  nodup : (reached.map Prod.fst).Nodup
  lookup_iff : ∀ t n, reached.lookup t = some n ↔ n ≤ d ∧ Nearest steps start t n

namespace Level

variable {d : Nat} {reached : List (Stop × Nat)}

theorem zero : Level steps start 0 [(start, 0)] := by
  constructor
  · simp
  · intro t n
    constructor
    · intro h
      rw [Keyed.lookup_eq_some_iff_mem (by simp)] at h
      obtain ⟨rfl, rfl⟩ : t = start ∧ n = 0 := by simpa using h
      refine ⟨Nat.le_refl _, Walk.here, ?_⟩
      intro m _
      omega
    · rintro ⟨hn, hnearest⟩
      obtain rfl : n = 0 := by omega
      cases hnearest.walk
      simp

theorem lookup_eq_none (h : Level steps start d reached) (t : Stop) :
  reached.lookup t = none ↔ ∀ n ≤ d, ¬Nearest steps start t n
  := by
  rw [Option.eq_none_iff_forall_ne_some]
  constructor
  · intro hnone n hn hnearest
    apply hnone n ((h.lookup_iff t n).mpr ⟨hn, hnearest⟩)
  · intro hfar n hsome
    obtain ⟨hn, hnearest⟩ := (h.lookup_iff t n).mp hsome
    apply hfar n hn hnearest

theorem exists_nearest (h : Level steps start d reached) {t : Stop}
    (ht : t ∈ reached.map Prod.fst) :
  ∃ n ≤ d, Nearest steps start t n
  := by
  obtain ⟨⟨t, n⟩, hmem, rfl⟩ := List.mem_map.mp ht
  use n
  rwa [← h.lookup_iff, Keyed.lookup_eq_some_iff_mem h.nodup]

/-- What is beyond a level is one step further away. -/
theorem mem_beyond (h : Level steps start d reached) (t : Stop) :
  t ∈ beyond steps d reached ↔ Nearest steps start t (d + 1)
  := by
  have hmem : t ∈ beyond steps d reached
      ↔ ∃ s, (s, t) ∈ steps ∧ reached.lookup s = some d ∧ reached.lookup t = none := by
    simp [beyond]
  rw [hmem, h.lookup_eq_none t]
  constructor
  · rintro ⟨s, hstep, hs, hfar⟩
    obtain ⟨-, hs⟩ := (h.lookup_iff s d).mp hs
    refine ⟨Walk.step hs.walk hstep, ?_⟩
    intro m hm
    by_contra hlt
    obtain ⟨k, hk, hnearest⟩ := hm.exists_nearest
    apply hfar k (by omega) hnearest
  · intro ht
    obtain ⟨s, hs, hstep⟩ := ht.pred
    refine ⟨s, hstep, (h.lookup_iff s d).mpr ⟨Nat.le_refl _, hs⟩, ?_⟩
    intro n hn hnearest
    have := hnearest.unique ht
    omega

/-- A round leads from a level to the next one. -/
theorem next (h : Level steps start d reached) :
  Level steps start (d + 1)
    (reached ++ (beyond steps d reached).map fun s => (s, d + 1))
  := by
  have hkeys : ((beyond steps d reached).map fun s => (s, d + 1)).map Prod.fst
      = beyond steps d reached := by
    simp [Function.comp_def]
  have hnodup : (beyond steps d reached).Nodup := Keyed.nodup_distinct _
  have hfound : ∀ t n, ((beyond steps d reached).map fun s => (s, d + 1)).lookup t = some n
      ↔ n = d + 1 ∧ Nearest steps start t (d + 1) := by
    intro t n
    rw [Keyed.lookup_eq_some_iff_mem (by rwa [hkeys]), ← h.mem_beyond t]
    simp [and_comm, eq_comm]
  constructor
  · rw [List.map_append, hkeys, List.nodup_append']
    refine ⟨h.nodup, hnodup, ?_⟩
    intro t ht hbeyond
    obtain ⟨n, hn, hnearest⟩ := h.exists_nearest ht
    have := hnearest.unique ((h.mem_beyond t).mp hbeyond)
    omega
  · intro t n
    rw [List.lookup_append, Option.or_eq_some_iff, h.lookup_iff, h.lookup_eq_none, hfound]
    constructor
    · rintro (⟨hn, hnearest⟩ | ⟨-, rfl, hnearest⟩)
      · exact ⟨by omega, hnearest⟩
      · exact ⟨Nat.le_refl _, hnearest⟩
    · rintro ⟨hn, hnearest⟩
      rcases Nat.lt_or_eq_of_le hn with hlt | rfl
      · exact Or.inl ⟨by omega, hnearest⟩
      · refine Or.inr ⟨?_, rfl, hnearest⟩
        intro m hm hnearer
        have := hnearer.unique hnearest
        omega

/-- A level with nothing beyond it has all stops that can be reached. -/
theorem lookup_iff_nearest (h : Level steps start d reached)
    (hbeyond : beyond steps d reached = []) (t : Stop) (n : Nat) :
  reached.lookup t = some n ↔ Nearest steps start t n
  := by
  rw [h.lookup_iff]
  constructor
  · exact And.right
  · intro hnearest
    refine ⟨?_, hnearest⟩
    by_contra hlt
    obtain ⟨u, hu⟩ := hnearest.exists_of_le (d := d + 1) (by omega)
    have hmem := (h.mem_beyond u).mpr hu
    simp [hbeyond] at hmem

/-- The stops of a level and one beyond it are the start and targets of different steps. -/
theorem length_le (h : Level steps start d reached) (hbeyond : beyond steps d reached ≠ []) :
  reached.length ≤ steps.length
  := by
  obtain ⟨t, ht⟩ := List.exists_mem_of_ne_nil _ hbeyond
  have ht := (h.mem_beyond t).mp ht
  have hnew : (t :: reached.map Prod.fst).Nodup := by
    rw [List.nodup_cons]
    refine ⟨?_, h.nodup⟩
    intro hmem
    obtain ⟨n, hn, hnearest⟩ := h.exists_nearest hmem
    have := hnearest.unique ht
    omega
  have hsub : t :: reached.map Prod.fst ⊆ start :: steps.map Prod.snd := by
    intro s hs
    rw [List.mem_cons]
    rcases List.mem_cons.mp hs with rfl | hs
    · apply ht.walk.eq_or_mem
    · obtain ⟨n, -, hnearest⟩ := h.exists_nearest hs
      apply hnearest.walk.eq_or_mem
  simpa using List.Nodup.length_le_of_subset hnew hsub

/-- With enough rounds, a level is extended to one with nothing beyond it. -/
theorem exists_spread (h : Level steps start d reached) {rounds : Nat}
    (hrounds : steps.length < rounds + reached.length) :
  ∃ e, Level steps start e (spread steps rounds d reached)
    ∧ beyond steps e (spread steps rounds d reached) = []
  := by
  induction rounds generalizing d reached with
  | zero =>
    refine ⟨d, h, ?_⟩
    by_contra hbeyond
    have := h.length_le hbeyond
    omega
  | succ rounds ih =>
    rw [spread]
    split
    · next hbeyond => exact ⟨d, h, hbeyond⟩
    · next found hfound =>
      apply ih h.next
      have := List.length_pos_of_ne_nil hfound
      simp only [List.length_append, List.length_map]
      omega

end Level

/-! ### Distances -/

theorem exists_level_distances (steps : List (Stop × Stop)) (start : Stop) :
  ∃ e, Level steps start e (distances steps start) ∧ beyond steps e (distances steps start) = []
  := by
  apply Level.exists_spread Level.zero
  simp

theorem nodup_distances (steps : List (Stop × Stop)) (start : Stop) :
  ((distances steps start).map Prod.fst).Nodup
  := by
  obtain ⟨e, h, -⟩ := exists_level_distances steps start
  exact h.nodup

/-- A stop is found at some distance exactly if a shortest walk to it has that many steps. -/
theorem lookup_distances (t : Stop) (n : Nat) :
  (distances steps start).lookup t = some n ↔ Nearest steps start t n
  := by
  obtain ⟨e, h, hbeyond⟩ := exists_level_distances steps start
  apply h.lookup_iff_nearest hbeyond

/-- The ids that are reached are those of the stops that a walk ends at. -/
theorem mem_reached {x : String} :
  x ∈ reached steps start ↔ ∃ t n, Walk steps start t n ∧ t.id = x
  := by
  have hmem : x ∈ reached steps start ↔ ∃ t n, (t, n) ∈ distances steps start ∧ t.id = x := by
    simp [reached]
  rw [hmem]
  constructor
  · rintro ⟨t, n, h, rfl⟩
    rw [← Keyed.lookup_eq_some_iff_mem (nodup_distances steps start), lookup_distances] at h
    exact ⟨t, n, h.walk, rfl⟩
  · rintro ⟨t, n, h, rfl⟩
    obtain ⟨m, -, hnearest⟩ := h.exists_nearest
    refine ⟨t, m, ?_, rfl⟩
    rwa [← Keyed.lookup_eq_some_iff_mem (nodup_distances steps start), lookup_distances]

/-! ### Links -/

/-- What a trace sees of a link: its id and the elements that it leaves and reaches. -/
def ends (l : Link) : String × String × String :=
  (l.id, l.sourceElement, l.targetElement)

variable {links links' : List Link}

theorem mem_steps {s t : Stop} :
  (s, t) ∈ Reach.steps links
    ↔ ∃ l ∈ links, (s = .node l.sourceElement ∧ t = .link l.id)
      ∨ (s = .link l.id ∧ t = .node l.targetElement)
  := by
  simp [Reach.steps, Link.steps]

/-- The end at which a trace in a direction comes to a link. -/
def near (direction : Direction) (l : Link) : String :=
  match direction with
  | .backward => l.targetElement
  | _ => l.sourceElement

/-- The end that a trace in a direction comes to over a link. -/
def far (direction : Direction) (l : Link) : String :=
  match direction with
  | .backward => l.sourceElement
  | _ => l.targetElement

theorem near_eq_or (direction : Direction) (l : Link) :
  near direction l = l.sourceElement ∨ near direction l = l.targetElement
  := by
  cases direction with
  | backward => exact Or.inr rfl
  | forward => exact Or.inl rfl
  | both => exact Or.inl rfl

/-- A step in a direction leads from the near end of a link to the link or on to its far end. -/
theorem mem_stepsIn_iff_ends {direction : Direction} {s t : Stop} :
  (s, t) ∈ stepsIn direction links
    ↔ ∃ l ∈ links, (s = .node (near direction l) ∧ t = .link l.id)
      ∨ (s = .link l.id ∧ t = .node (far direction l))
  := by
  cases direction with
  | backward => simp [stepsIn, mem_steps, near, far, and_comm, or_comm]
  | forward => exact mem_steps
  | both => exact mem_steps

/-- A link is only come to at its near end. If links shared ids, it could be come to at the end of
another one. -/
theorem eq_near_of_step (hids : (links.map Link.id).Nodup) {direction : Direction} {l : Link}
    (hl : l ∈ links) {s : Stop} (h : (s, .link l.id) ∈ stepsIn direction links) :
  s = .node (near direction l)
  := by
  obtain ⟨m, hm, ⟨hs, hid⟩ | ⟨-, hid⟩⟩ := mem_stepsIn_iff_ends.mp h
  · obtain rfl : l = m := List.inj_on_of_nodup_map hids hl hm (Stop.link.inj hid)
    exact hs
  · cases hid

theorem steps_subset_of_ends (h : ∀ e ∈ links.map ends, e ∈ links'.map ends) {p : Stop × Stop}
    (hp : p ∈ Reach.steps links) :
  p ∈ Reach.steps links'
  := by
  obtain ⟨s, t⟩ := p
  obtain ⟨l, hl, hst⟩ := mem_steps.mp hp
  obtain ⟨l', hl', he⟩ := List.mem_map.mp (h (ends l) (List.mem_map_of_mem hl))
  obtain ⟨hid, hsource, htarget⟩ : l'.id = l.id ∧ l'.sourceElement = l.sourceElement
      ∧ l'.targetElement = l.targetElement := by
    simpa [ends] using he
  apply mem_steps.mpr
  use l', hl'
  rwa [hid, hsource, htarget]

/-- The stop that an id names depends on the ends of the links only. -/
theorem stop?_congr (h : ∀ e, e ∈ links.map ends ↔ e ∈ links'.map ends) (id : String) :
  stop? links id = stop? links' id
  := by
  have hany : ∀ p : String × String × String → Bool,
      links.any (fun l => p (ends l)) = links'.any (fun l => p (ends l)) := by
    intro p
    have hmap : ∀ ls : List Link, ls.any (fun l => p (ends l)) = (ls.map ends).any p := by
      intro ls
      rw [List.any_map]
      rfl
    rw [hmap, hmap, Bool.eq_iff_iff]
    simp only [List.any_eq_true, h]
  have hlink : links.any (·.id = id) = links'.any (·.id = id) := hany fun e => e.1 = id
  have hnode : links.any (fun l => l.sourceElement = id ∨ l.targetElement = id)
      = links'.any (fun l => l.sourceElement = id ∨ l.targetElement = id) :=
    hany fun e => e.2.1 = id ∨ e.2.2 = id
  rw [stop?, stop?, hlink, hnode]

/-- An id that no link has names an element at the end of a link. -/
theorem stop?_of_not_mem {id : String} (hid : id ∉ links.map Link.id) :
  stop? links id = if ∃ l ∈ links, l.sourceElement = id ∨ l.targetElement = id
    then some (.node id) else none
  := by
  have hlink : links.any (·.id = id) = false := by simpa using hid
  simp [stop?, hlink]

theorem mem_connected {direction : Direction} {first x : String} :
  x ∈ connected links direction first
    ↔ x = first ∨ ∃ stop t n, stop? links first = some stop ∧ t.id = x
      ∧ (direction ≠ .backward ∧ Walk (stepsIn .forward links) stop t n
        ∨ direction ≠ .forward ∧ Walk (stepsIn .backward links) stop t n)
  := by
  cases hstop : stop? links first with
  | none => simp [connected, hstop]
  | some stop =>
    have hreached : ∀ steps, x ∈ reached steps stop ↔ ∃ t n, t.id = x ∧ Walk steps stop t n := by
      intro steps
      simp [mem_reached, and_comm]
    cases direction with
    | backward => simp [connected, hstop, hreached]
    | forward => simp [connected, hstop, hreached]
    | both => simp [connected, hstop, hreached, and_or_left, exists_or]

/-- What is connected depends on the ends of the links only. -/
theorem mem_connected_congr (h : ∀ e, e ∈ links.map ends ↔ e ∈ links'.map ends)
    (direction : Direction) (first x : String) :
  x ∈ connected links direction first ↔ x ∈ connected links' direction first
  := by
  have hwalk : ∀ d s t n, Walk (stepsIn d links) s t n ↔ Walk (stepsIn d links') s t n := by
    have hsteps : ∀ p, p ∈ Reach.steps links ↔ p ∈ Reach.steps links' := fun p =>
      ⟨steps_subset_of_ends fun e => (h e).mp, steps_subset_of_ends fun e => (h e).mpr⟩
    have hin : ∀ d p, p ∈ stepsIn d links ↔ p ∈ stepsIn d links' := by
      intro d p
      cases d <;> simp [stepsIn, hsteps]
    intro d s t n
    constructor
    · apply Walk.mono fun p => (hin d p).mp
    · apply Walk.mono fun p => (hin d p).mpr
  simp only [mem_connected, stop?_congr h, hwalk]

theorem mem_connectedToAny_congr (h : ∀ e, e ∈ links.map ends ↔ e ∈ links'.map ends)
    (direction : Direction) (starts : List String) (x : String) :
  x ∈ connectedToAny links direction starts ↔ x ∈ connectedToAny links' direction starts
  := by
  simp only [connectedToAny, List.mem_flatMap, mem_connected_congr h]

theorem id_of_stop? {first : String} {stop : Stop} (h : stop? links first = some stop) :
  stop.id = first
  := by
  unfold stop? at h
  split at h
  · cases h
    rfl
  · split at h
    · cases h
      rfl
    · cases h

theorem nodup_hops (links : List Link) (direction : Direction) (first : String) :
  ((hops links direction first).map Prod.fst).Nodup
  := by
  cases hstop : stop? links first with
  | none => simp [hops, hstop]
  | some stop =>
    simp only [hops, hstop, List.map_map, Function.comp_def]
    exact (nodup_distances (stepsIn direction links) stop).sublist
      (List.filter_sublist.map Prod.fst)

/-- The hops to a stop count the links on a shortest walk to it. -/
theorem mem_hops {direction : Direction} {first : String} {t : Stop} {h : Nat} :
  (t, h) ∈ hops links direction first
    ↔ ∃ stop n, stop? links first = some stop ∧ t ≠ stop
      ∧ Nearest (stepsIn direction links) stop t n ∧ h = linksOn n
  := by
  cases hstop : stop? links first with
  | none => simp [hops, hstop]
  | some stop =>
    have hfound : ∀ n, (t, n) ∈ distances (stepsIn direction links) stop
        ↔ Nearest (stepsIn direction links) stop t n := by
      intro n
      rw [← Keyed.lookup_eq_some_iff_mem (nodup_distances _ stop), lookup_distances]
    have hmem : (t, h) ∈ hops links direction first
        ↔ ∃ n, ((t, n) ∈ distances (stepsIn direction links) stop ∧ t ≠ stop) ∧ linksOn n = h := by
      simp [hops, hstop]
    rw [hmem]
    simp [hfound, and_assoc, and_left_comm, eq_comm]

theorem lookup_hops {direction : Direction} {first : String} {t : Stop} {h : Nat} :
  (hops links direction first).lookup t = some h
    ↔ ∃ stop n, stop? links first = some stop ∧ t ≠ stop
      ∧ Nearest (stepsIn direction links) stop t n ∧ h = linksOn n
  := by
  rw [Keyed.lookup_eq_some_iff_mem (nodup_hops links direction first), mem_hops]

/-- What is found some hops away is what a walk leads to, but for the start. -/
theorem mem_ids_hops {direction : Direction} {first x : String} :
  x ∈ (hops links direction first).map (fun s => s.1.id)
    ↔ ∃ stop t n, stop? links first = some stop ∧ t ≠ stop ∧ t.id = x
      ∧ Walk (stepsIn direction links) stop t n
  := by
  rw [List.mem_map]
  constructor
  · rintro ⟨⟨t, h⟩, hmem, rfl⟩
    obtain ⟨stop, n, hstop, hne, hnearest, -⟩ := mem_hops.mp hmem
    exact ⟨stop, t, n, hstop, hne, rfl, hnearest.walk⟩
  · rintro ⟨stop, t, n, hstop, hne, rfl, hwalk⟩
    obtain ⟨m, -, hnearest⟩ := hwalk.exists_nearest
    exact ⟨(t, linksOn m), mem_hops.mpr ⟨stop, m, hstop, hne, hnearest, rfl⟩, rfl⟩

/-- What is connected to an element is the element and what is some hops away from it. -/
theorem mem_connected_iff_hops {direction : Direction} {first x : String} :
  x ∈ connected links direction first
    ↔ x = first
      ∨ (direction ≠ .backward ∧ x ∈ (hops links .forward first).map fun s => s.1.id)
      ∨ (direction ≠ .forward ∧ x ∈ (hops links .backward first).map fun s => s.1.id)
  := by
  rw [mem_connected, mem_ids_hops, mem_ids_hops]
  constructor
  · rintro (rfl | ⟨stop, t, n, hstop, rfl, hwalk⟩)
    · exact Or.inl rfl
    · by_cases hne : t = stop
      · rw [hne]
        exact Or.inl (id_of_stop? hstop)
      · right
        rcases hwalk with ⟨hdirection, hwalk⟩ | ⟨hdirection, hwalk⟩
        · exact Or.inl ⟨hdirection, stop, t, n, hstop, hne, rfl, hwalk⟩
        · exact Or.inr ⟨hdirection, stop, t, n, hstop, hne, rfl, hwalk⟩
  · rintro (rfl | ⟨hdirection, stop, t, n, hstop, -, rfl, hwalk⟩
      | ⟨hdirection, stop, t, n, hstop, -, rfl, hwalk⟩)
    · exact Or.inl rfl
    · exact Or.inr ⟨stop, t, n, hstop, rfl, Or.inl ⟨hdirection, hwalk⟩⟩
    · exact Or.inr ⟨stop, t, n, hstop, rfl, Or.inr ⟨hdirection, hwalk⟩⟩

/-! ### Elements -/

/-- A walk between elements ends at the element of its id, if no link has that id. -/
theorem eq_node_of_walk {a b : String} (hb : b ∉ links.map Link.id) {direction : Direction} {t : Stop} {n : Nat}
    (h : Walk (stepsIn direction links) (.node a) t n) (ht : t.id = b) :
  t = .node b
  := by
  cases t with
  | node x => rw [← ht, Stop.id]
  | link i =>
    exfalso
    apply hb
    obtain rfl : i = b := ht
    rcases h.eq_or_mem with heq | hmem
    · cases heq
    · obtain ⟨⟨s, u⟩, hstep, rfl⟩ := List.mem_map.mp hmem
      obtain ⟨l, hl, ⟨-, hid⟩ | ⟨-, hid⟩⟩ := mem_stepsIn_iff_ends.mp hstep
      · exact List.mem_map.mpr ⟨l, hl, (Stop.link.inj hid).symm⟩
      · cases hid

section Elements

variable {a b : String} (ha : a ∉ links.map Link.id)

include ha

theorem eq_node_of_stop? {stop : Stop} (h : stop? links a = some stop) :
  stop = .node a
  := by
  rw [stop?_of_not_mem ha] at h
  split at h
  · exact (Option.some.inj h).symm
  · cases h

/-- A walk that leads away from an element leaves it over a link, so the element is a stop. -/
theorem stop?_of_walk {direction : Direction} {t : Stop} {n : Nat}
    (h : Walk (stepsIn direction links) (.node a) t n) (hne : t ≠ .node a) :
  stop? links a = some (.node a)
  := by
  rw [stop?_of_not_mem ha, if_pos]
  rcases h.eq_or_exists with heq | ⟨u, hstep⟩
  · exact absurd heq hne
  · obtain ⟨l, hl, ⟨hnear, -⟩ | ⟨hlink, -⟩⟩ := mem_stepsIn_iff_ends.mp hstep
    · use l, hl
      rw [Stop.node.inj hnear]
      exact (near_eq_or direction l).imp Eq.symm Eq.symm
    · cases hlink

/-- An element is connected to another one if a walk leads from it to the other one, or from the
other one to it, whichever way is followed. -/
theorem mem_connected_iff_walk (hb : b ∉ links.map Link.id) {direction : Direction} :
  b ∈ connected links direction a
    ↔ (direction ≠ .backward ∧ ∃ n, Walk (Reach.steps links) (.node a) (.node b) n)
      ∨ (direction ≠ .forward ∧ ∃ n, Walk (Reach.steps links) (.node b) (.node a) n)
  := by
  rw [mem_connected]
  constructor
  · rintro (rfl | ⟨stop, t, n, hstop, ht, ⟨hdirection, hwalk⟩ | ⟨hdirection, hwalk⟩⟩)
    · cases direction with
      | backward => exact Or.inr ⟨by simp, 0, Walk.here⟩
      | forward => exact Or.inl ⟨by simp, 0, Walk.here⟩
      | both => exact Or.inl ⟨by simp, 0, Walk.here⟩
    · obtain rfl := eq_node_of_stop? ha hstop
      obtain rfl := eq_node_of_walk hb hwalk ht
      exact Or.inl ⟨hdirection, n, hwalk⟩
    · obtain rfl := eq_node_of_stop? ha hstop
      obtain rfl := eq_node_of_walk hb hwalk ht
      exact Or.inr ⟨hdirection, n, walk_swap.mp hwalk⟩
  · intro h
    by_cases hne : b = a
    · exact Or.inl hne
    · right
      have hne' : Stop.node b ≠ .node a := fun heq => hne (Stop.node.inj heq)
      use .node a, .node b
      rcases h with ⟨hdirection, n, hwalk⟩ | ⟨hdirection, n, hwalk⟩
      · have hahead : Walk (stepsIn .forward links) (.node a) (.node b) n := hwalk
        exact ⟨n, stop?_of_walk ha hahead hne', rfl, Or.inl ⟨hdirection, hahead⟩⟩
      · have hback : Walk (stepsIn .backward links) (.node a) (.node b) n := walk_swap.mpr hwalk
        exact ⟨n, stop?_of_walk ha hback hne', rfl, Or.inr ⟨hdirection, hback⟩⟩

/-- An element is connected to another one, going forward, if a walk leads there. -/
theorem mem_connected_forward (hb : b ∉ links.map Link.id) :
  b ∈ connected links .forward a ↔ ∃ n, Walk (Reach.steps links) (.node a) (.node b) n
  := by
  simp [mem_connected_iff_walk ha hb]

/-- The hops from an element to another one. -/
theorem lookup_hops_node (hne : a ≠ b) {direction : Direction} {h : Nat} :
  (hops links direction a).lookup (.node b) = some h
    ↔ ∃ n, Nearest (stepsIn direction links) (.node a) (.node b) n ∧ h = linksOn n
  := by
  rw [lookup_hops]
  constructor
  · rintro ⟨stop, n, hstop, -, hnearest, rfl⟩
    obtain rfl := eq_node_of_stop? ha hstop
    exact ⟨n, hnearest, rfl⟩
  · rintro ⟨n, hnearest, rfl⟩
    have hne' : Stop.node b ≠ .node a := fun heq => hne (Stop.node.inj heq).symm
    exact ⟨.node a, n, stop?_of_walk ha hnearest.walk hne', hne', hnearest, rfl⟩

/-- The hops from an element to another one, going forward. -/
theorem lookup_hops_forward (hne : a ≠ b) {h : Nat} :
  (hops links .forward a).lookup (.node b) = some h
    ↔ ∃ n, Nearest (Reach.steps links) (.node a) (.node b) n ∧ h = linksOn n
  := lookup_hops_node ha hne

end Elements

/-! ### Simulation -/

/-- A walk is followed, step by step, wherever its steps are. -/
theorem Walk.simulate {steps' : List (Stop × Stop)} {Follows : Stop → Stop → Prop}
    (hstep : ∀ {s t s'}, (s, t) ∈ steps → Follows s s' → ∃ t', Follows t t' ∧ (s', t') ∈ steps')
    {start' t : Stop} {n : Nat} (h : Walk steps start t n) (hstart : Follows start start') :
  ∃ t', Follows t t' ∧ Walk steps' start' t' n
  := by
  induction h with
  | here => exact ⟨start', hstart, Walk.here⟩
  | step _ ht ih =>
    obtain ⟨t', hfollows, hwalk⟩ := ih
    obtain ⟨u', hfollows, ht'⟩ := hstep ht hfollows
    exact ⟨u', hfollows, Walk.step hwalk ht'⟩

/-- A stop of a trace over some links and its counterpart over others, if `f` maps the
elements: an element and its image, or two links that reach such. -/
inductive Counterpart (f : String → String) (links links' : List Link) : Stop → Stop → Prop where
  | node (x : String) : Counterpart f links links' (.node x) (.node (f x))
  | link {l l' : Link} (hl : l ∈ links) (hl' : l' ∈ links')
      (htarget : l'.targetElement = f l.targetElement) :
      Counterpart f links links' (.link l.id) (.link l'.id)

/-- If every link has a counterpart between the images of its ends, then so has every walk
between elements. Links must not share ids, or a walk could change over from one to another. -/
theorem Walk.map_nodes {f : String → String} (hids : (links.map Link.id).Nodup)
    (hlinks : ∀ l ∈ links, ∃ l' ∈ links', l'.sourceElement = f l.sourceElement
      ∧ l'.targetElement = f l.targetElement)
    {x y : String} {n : Nat} (h : Walk (Reach.steps links) (.node x) (.node y) n) :
  Walk (Reach.steps links') (.node (f x)) (.node (f y)) n
  := by
  have hstep : ∀ {s t s'}, (s, t) ∈ Reach.steps links → Counterpart f links links' s s' →
      ∃ t', Counterpart f links links' t t' ∧ (s', t') ∈ Reach.steps links' := by
    intro s t s' hst hs
    obtain ⟨l, hl, ⟨rfl, rfl⟩ | ⟨rfl, rfl⟩⟩ := mem_steps.mp hst
    · cases hs
      obtain ⟨l', hl', hsource, htarget⟩ := hlinks l hl
      refine ⟨.link l'.id, .link hl hl' htarget, mem_steps.mpr ⟨l', hl', Or.inl ⟨?_, rfl⟩⟩⟩
      rw [hsource]
    · generalize hid : Stop.link l.id = stop at hs
      cases hs with
      | node => cases hid
      | @link m l' hm hl' htarget =>
        obtain rfl : l = m := List.inj_on_of_nodup_map hids hl hm (Stop.link.inj hid)
        refine ⟨_, .node _, mem_steps.mpr ⟨l', hl', Or.inr ⟨rfl, ?_⟩⟩⟩
        rw [htarget]
  obtain ⟨t', hfollows, hwalk⟩ := h.simulate hstep (.node x)
  cases hfollows
  exact hwalk

end Lineage.Reach
