import Lineage.Keyed
import Mathlib.Data.List.Induction
import Mathlib.Data.List.Nodup
import Mathlib.Tactic.Common

/-!
# Laws of keyed lists

A keyed list has every key of the list that it was collected from, once and in the order in which
the keys first come, so it is determined by what is found under the keys. That is what the items of
the key are joined to, one after the other; `Keyed.firsts` finds what the list itself finds first.
-/

namespace Lineage.Keyed

variable {α κ : Type} [DecidableEq κ]

/-- In a list of pairs without repeated keys, what a key leads to is what it is paired with. -/
theorem lookup_eq_some_iff_mem {β : Type} {ps : List (κ × β)} (hps : (ps.map Prod.fst).Nodup)
    {k : κ} {b : β} :
  ps.lookup k = some b ↔ (k, b) ∈ ps
  := by
  induction ps with
  | nil => simp
  | cons p ps ih =>
    obtain ⟨j, c⟩ := p
    obtain ⟨hj, hps⟩ := List.nodup_cons.mp hps
    by_cases hk : k = j
    · subst hk
      have hne : (k, b) ∉ ps := by
        intro h
        apply hj
        apply List.mem_map_of_mem (f := Prod.fst) h
      simp [hne, eq_comm]
    · rw [List.lookup_cons, beq_false_of_ne hk, ih hps]
      simp [hk]

/-- In a list without repeated keys, what is found under a key is what has the key. -/
theorem find?_eq_some_iff_mem {key : α → κ} {as : List α} (has : (as.map key).Nodup) {k : κ}
    {a : α} :
  as.find? (key · = k) = some a ↔ a ∈ as ∧ key a = k
  := by
  constructor
  · intro h
    exact ⟨List.mem_of_find?_eq_some h, by simpa using List.find?_some h⟩
  · rintro ⟨ha, rfl⟩
    cases hfind : as.find? (key · = key a) with
    | none => simpa using List.find?_eq_none.mp hfind a ha
    | some b =>
      have hkey : key b = key a := by simpa using List.find?_some hfind
      rw [List.inj_on_of_nodup_map has (List.mem_of_find?_eq_some hfind) ha hkey]

/-! ### Collecting -/

theorem collect_concat (key : α → κ) (join : α → α → α) (as : List α) (a : α) :
  collect key join (as ++ [a]) = insertWith key join a (collect key join as)
  := by
  simp [collect]

/-- A function that respects keys and joins may be applied before or after collecting. -/
theorem map_collect {β : Type} {f : α → β} {key : α → κ} {key' : β → κ} {join : α → α → α}
    {join' : β → β → β} (hkey : ∀ a, key' (f a) = key a)
    (hjoin : ∀ b a, f (join b a) = join' (f b) (f a)) (as : List α) :
  (collect key join as).map f = collect key' join' (as.map f)
  := by
  have hinsert : ∀ (a : α) (bs : List α),
      (insertWith key join a bs).map f = insertWith key' join' (f a) (bs.map f) := by
    intro a bs
    induction bs with
    | nil => rfl
    | cons b bs ih =>
      simp only [insertWith, List.map_cons, hkey]
      split <;> simp [hjoin, ih]
  induction as using List.reverseRecOn with
  | nil => rfl
  | append_singleton as a ih =>
    rw [collect_concat, hinsert, ih, ← collect_concat, List.map_append, List.map_singleton]

/-- What holds of all items and is kept when items are joined holds of all that is collected. -/
theorem forall_mem_collect {key : α → κ} {join : α → α → α} {P : α → Prop} {as : List α}
    (has : ∀ a ∈ as, P a) (hjoin : ∀ b a, P b → P a → P (join b a)) :
  ∀ b ∈ collect key join as, P b
  := by
  have hinsert : ∀ (a : α) (bs : List α), P a → (∀ b ∈ bs, P b) →
      ∀ b ∈ insertWith key join a bs, P b := by
    intro a bs ha hbs
    induction bs with
    | nil => simpa [insertWith] using ha
    | cons c cs ih =>
      obtain ⟨hc, hcs⟩ := List.forall_mem_cons.mp hbs
      rw [insertWith]
      split
      · exact List.forall_mem_cons.mpr ⟨hjoin c a hc ha, hcs⟩
      · exact List.forall_mem_cons.mpr ⟨hc, ih hcs⟩
  induction as using List.reverseRecOn with
  | nil => simp
  | append_singleton as a ih =>
    rw [collect_concat]
    apply hinsert a
    · exact has a (by simp)
    · apply ih
      intro b hb
      exact has b (by simp [hb])

/-- What the first item of a list becomes when the others are joined to it, one after the other. -/
def joined? (join : α → α → α) : List α → Option α
  | [] => none
  | a :: as => some (as.foldl join a)

theorem joined?_concat (join : α → α → α) (as : List α) (a : α) :
  joined? join (as ++ [a]) = some ((joined? join as).elim a (join · a))
  := by
  cases as with
  | nil => rfl
  | cons b bs => simp [joined?]

/-- To show something of what a list is joined to, it is enough to show it of single items and that
it is kept when another item is joined. -/
theorem joined?_induction {join : α → α → α} {motive : List α → α → Prop}
    (single : ∀ a, motive [a] a)
    (concat : ∀ as a b, motive as b → motive (as ++ [a]) (join b a))
    {as : List α} {b : α} (h : joined? join as = some b) :
  motive as b
  := by
  induction as using List.reverseRecOn generalizing b with
  | nil => cases h
  | append_singleton as a ih =>
    rw [joined?_concat, Option.some.injEq] at h
    subst h
    cases hjoined : joined? join as with
    | none =>
      cases as with
      | nil => apply single
      | cons c cs => cases hjoined
    | some b =>
      apply concat
      apply ih hjoined

section Joining

variable {key : α → κ} {join : α → α → α}
  (hjoin : ∀ b a, key b = key a → key (join b a) = key b)

include hjoin

theorem mem_keys_insertWith {a : α} {bs : List α} {k : κ} :
  k ∈ (insertWith key join a bs).map key ↔ k = key a ∨ k ∈ bs.map key
  := by
  rw [keys_insertWith key join hjoin]
  split
  · next ha =>
    constructor
    · apply Or.inr
    · rintro (rfl | hk)
      · exact ha
      · exact hk
  · rw [List.mem_append, List.mem_singleton, or_comm]

/-- The keys are collected in the order in which they first come. -/
theorem keys_collect (as : List α) :
  (collect key join as).map key = (as.map key).eraseDups
  := by
  induction as using List.reverseRecOn with
  | nil => rfl
  | append_singleton as a ih =>
    rw [collect_concat, keys_insertWith key join hjoin, ih, List.map_append, List.eraseDups_append]
    simp only [List.mem_eraseDups, List.map_singleton, List.cons_removeAll]
    by_cases ha : key a ∈ as.map key <;> simp [ha, List.eraseDups_cons]

/-- The keys that are collected are those of the list. -/
theorem mem_keys_collect (as : List α) (k : κ) :
  k ∈ (collect key join as).map key ↔ k ∈ as.map key
  := by
  rw [keys_collect hjoin, List.mem_eraseDups]

/-- No key is collected twice. -/
theorem nodup_keys_collect (as : List α) :
  ((collect key join as).map key).Nodup
  := by
  induction as using List.reverseRecOn with
  | nil => simp
  | append_singleton as a ih =>
    rw [collect_concat, keys_insertWith key join hjoin]
    split
    · exact ih
    · next ha =>
      rw [← List.concat_eq_append]
      apply List.Nodup.concat ha ih

theorem find?_insertWith (a : α) (bs : List α) (k : κ) :
  (insertWith key join a bs).find? (key · = k)
    = if key a = k then some ((bs.find? (key · = k)).elim a (join · a))
      else bs.find? (key · = k)
  := by
  induction bs with
  | nil => by_cases ha : key a = k <;> simp [insertWith, ha]
  | cons b bs ih =>
    by_cases hb : key b = key a
    · have hjoined : key (join b a) = key a := by rw [hjoin b a hb, hb]
      by_cases ha : key a = k <;> simp [insertWith, hb, hjoined, ha]
    · rw [insertWith, if_neg hb]
      by_cases hk : key b = k
      · have ha : key a ≠ k := fun ha => hb (hk.trans ha.symm)
        simp [hk, ha]
      · simp [hk, ih]

/-- What is collected under a key is what the items of the key are joined to. -/
theorem find?_collect (as : List α) (k : κ) :
  (collect key join as).find? (key · = k) = joined? join (as.filter (key · = k))
  := by
  induction as using List.reverseRecOn with
  | nil => rfl
  | append_singleton as a ih =>
    rw [collect_concat, find?_insertWith hjoin, ih, List.filter_append]
    by_cases ha : key a = k
    · simp [ha, joined?_concat]
    · simp [ha]

end Joining

section Choosing

variable {key : α → κ} {join : α → α → α} (hjoin : ∀ b a, join b a = b ∨ join b a = a)

include hjoin

theorem mem_of_mem_insertWith {a b : α} {bs : List α} (h : b ∈ insertWith key join a bs) :
  b = a ∨ b ∈ bs
  := by
  induction bs with
  | nil => simpa [insertWith] using h
  | cons c cs ih =>
    rw [insertWith] at h
    split at h
    · rcases List.mem_cons.mp h with rfl | h
      · rcases hjoin c a with e | e <;> simp [e]
      · simp [h]
    · rcases List.mem_cons.mp h with rfl | h
      · simp
      · rcases ih h with rfl | h <;> simp [*]

/-- What is collected by choosing between items is among the items. -/
theorem mem_of_mem_collect {as : List α} {b : α} (hb : b ∈ collect key join as) :
  b ∈ as
  := by
  induction as using List.reverseRecOn with
  | nil => simp at hb
  | append_singleton as a ih =>
    rw [collect_concat] at hb
    rcases mem_of_mem_insertWith hjoin hb with rfl | h
    · simp
    · simp [ih h]

end Choosing

/-! ### Collecting in parts -/

theorem collect_append (key : α → κ) (join : α → α → α) (as bs : List α) :
  collect key join (as ++ bs)
    = bs.foldl (fun kept b => insertWith key join b kept) (collect key join as)
  := by
  simp [collect]

section Parts

variable {key : α → κ} {join : α → α → α}

theorem insertWith_of_not_mem {a : α} {bs : List α} (h : key a ∉ bs.map key) :
  insertWith key join a bs = bs ++ [a]
  := by
  induction bs with
  | nil => rfl
  | cons b bs ih =>
    obtain ⟨hb, hbs⟩ : ¬key a = key b ∧ key a ∉ bs.map key := by simpa using h
    rw [insertWith, if_neg (Ne.symm hb), ih hbs]
    rfl

/-- A list without repeated keys is collected as it is. -/
theorem collect_of_nodup {as : List α} (h : (as.map key).Nodup) : collect key join as = as := by
  induction as using List.reverseRecOn with
  | nil => rfl
  | append_singleton as a ih =>
    rw [List.map_append, List.nodup_append] at h
    obtain ⟨has, -, hdisjoint⟩ := h
    rw [collect_concat, ih has]
    apply insertWith_of_not_mem
    intro ha
    exact hdisjoint _ ha (key a) (by simp) rfl

variable (hjoin : ∀ b a, key b = key a → key (join b a) = key b)

include hjoin

/-- Of two items with different keys, either may be added first if the key of one is there. -/
theorem insertWith_comm {a b : α} (hab : key a ≠ key b) {cs : List α} (hb : key b ∈ cs.map key) :
  insertWith key join b (insertWith key join a cs)
    = insertWith key join a (insertWith key join b cs)
  := by
  induction cs with
  | nil => simp at hb
  | cons c cs ih =>
    by_cases hca : key c = key a
    · simp [insertWith, hca, hab, hjoin c a hca]
    · by_cases hcb : key c = key b
      · simp [insertWith, hcb, hab.symm, hjoin c b hcb]
      · have hb' : key b ∈ cs.map key := by simpa [Ne.symm hcb] using hb
        simp [insertWith, hca, hcb, ih hb']

/-- An item whose key is there already may be added before items of other keys. -/
theorem insertWith_foldl {b : α} {as : List α} (hb : key b ∉ as.map key) {cs : List α}
    (hcs : key b ∈ cs.map key) :
  insertWith key join b (as.foldl (fun kept a => insertWith key join a kept) cs)
    = as.foldl (fun kept a => insertWith key join a kept) (insertWith key join b cs)
  := by
  induction as generalizing cs with
  | nil => rfl
  | cons a as ih =>
    obtain ⟨hba, has⟩ : ¬key b = key a ∧ key b ∉ as.map key := by simpa using hb
    have hmem : key b ∈ (insertWith key join a cs).map key :=
      (mem_keys_insertWith hjoin).mpr (Or.inr hcs)
    rw [List.foldl_cons, List.foldl_cons, ih has hmem, insertWith_comm hjoin (Ne.symm hba) hcs]

/-- The first part of a list may be collected before. -/
theorem collect_collect_append (as bs : List α) :
  collect key join (collect key join as ++ bs) = collect key join (as ++ bs)
  := by
  rw [collect_append, collect_append, collect_of_nodup (nodup_keys_collect hjoin as)]

variable (hassoc : ∀ a b c, join (join a b) c = join a (join b c))

include hassoc

/-- Adding two items of one key is adding what they are joined to. -/
theorem insertWith_insertWith {a b : α} (hab : key a = key b) (cs : List α) :
  insertWith key join b (insertWith key join a cs) = insertWith key join (join a b) cs
  := by
  induction cs with
  | nil => simp [insertWith, hab]
  | cons c cs ih =>
    by_cases hca : key c = key a
    · simp [insertWith, hca, hab, hjoin a b hab, hjoin c a hca, hassoc]
    · have hcb : key c ≠ key b := by rwa [← hab]
      simp [insertWith, hca, hcb, hjoin a b hab, ih]

/-- Adding a keyed list with one more item is adding the list and then the item. -/
theorem foldl_insertWith {b : α} {as : List α} (has : (as.map key).Nodup) (cs : List α) :
  (insertWith key join b as).foldl (fun kept a => insertWith key join a kept) cs
    = insertWith key join b (as.foldl (fun kept a => insertWith key join a kept) cs)
  := by
  induction as generalizing cs with
  | nil => rfl
  | cons a as ih =>
    obtain ⟨ha, has⟩ := List.nodup_cons.mp has
    rw [insertWith]
    split
    · next hab =>
      rw [hab] at ha
      have hmem : key b ∈ (insertWith key join a cs).map key :=
        (mem_keys_insertWith hjoin).mpr (Or.inl hab.symm)
      rw [List.foldl_cons, List.foldl_cons, insertWith_foldl hjoin ha hmem,
        insertWith_insertWith hjoin hassoc hab]
    · rw [List.foldl_cons, List.foldl_cons, ih has]

/-- The second part of a list may be collected before, if it does not matter how three items are
joined. -/
theorem collect_append_collect (as bs : List α) :
  collect key join (as ++ collect key join bs) = collect key join (as ++ bs)
  := by
  rw [collect_append]
  induction bs using List.reverseRecOn with
  | nil => simp
  | append_singleton bs b ih =>
    rw [collect_concat, foldl_insertWith hjoin hassoc (nodup_keys_collect hjoin bs), ih,
      ← collect_concat, List.append_assoc]

end Parts

/-! ### First items -/

theorem mem_keys_firsts (key : α → κ) (as : List α) (k : κ) :
  k ∈ (firsts key as).map key ↔ k ∈ as.map key
  := mem_keys_collect (fun _ _ _ => rfl) as k

theorem nodup_keys_firsts (key : α → κ) (as : List α) :
  ((firsts key as).map key).Nodup
  := nodup_keys_collect (fun _ _ _ => rfl) as

theorem mem_of_mem_firsts {key : α → κ} {as : List α} {a : α} (h : a ∈ firsts key as) :
  a ∈ as
  := mem_of_mem_collect (fun _ _ => Or.inl rfl) h

theorem firsts_firsts_append (key : α → κ) (as bs : List α) :
  firsts key (firsts key as ++ bs) = firsts key (as ++ bs)
  := collect_collect_append (fun _ _ _ => rfl) as bs

theorem firsts_append_firsts (key : α → κ) (as bs : List α) :
  firsts key (as ++ firsts key bs) = firsts key (as ++ bs)
  := collect_append_collect (fun _ _ _ => rfl) (fun _ _ _ => rfl) as bs

/-- Under a key, the first items and the list find the same. -/
theorem find?_firsts (key : α → κ) (as : List α) (k : κ) :
  (firsts key as).find? (key · = k) = as.find? (key · = k)
  := by
  rw [firsts, find?_collect fun _ _ _ => rfl, ← List.head?_filter]
  cases as.filter (key · = k) with
  | nil => rfl
  | cons b bs => rw [joined?, List.foldl_fixed, List.head?_cons]

/-! ### Repeated items -/

/-- An item that changes nothing when it is joined is not added if its key is there already. -/
theorem insertWith_of_mem {key : α → κ} {join : α → α → α} {a : α} {bs : List α}
    (hjoin : ∀ b ∈ bs, key b = key a → join b a = b) (h : key a ∈ bs.map key) :
  insertWith key join a bs = bs
  := by
  induction bs with
  | nil => simp at h
  | cons b bs ih =>
    by_cases hb : key b = key a
    · rw [insertWith, if_pos hb, hjoin b (by simp) hb]
    · have h' : key a ∈ bs.map key := by simpa [Ne.symm hb] using h
      rw [insertWith, if_neg hb, ih (fun c hc => hjoin c (by simp [hc])) h']

theorem firsts_concat (key : α → κ) (as : List α) (a : α) :
  firsts key (as ++ [a])
    = if key a ∈ as.map key then firsts key as else firsts key as ++ [a]
  := by
  rw [firsts, collect_concat]
  split
  · next h =>
    apply insertWith_of_mem
    · intro b _ _
      rfl
    · exact (mem_keys_firsts key as (key a)).mpr h
  · next h =>
    apply insertWith_of_not_mem
    intro ha
    exact h ((mem_keys_firsts key as (key a)).mp ha)

/-- The first items of two lists depend on the first items of each. -/
theorem firsts_append_congr {key : α → κ} {as as' bs bs' : List α}
    (has : firsts key as = firsts key as') (hbs : firsts key bs = firsts key bs') :
  firsts key (as ++ bs) = firsts key (as' ++ bs')
  := by
  rw [← firsts_firsts_append, has, firsts_firsts_append, ← firsts_append_firsts, hbs,
    firsts_append_firsts]

/-- Whether the items of a key are one item, however often it comes. -/
def Same (key : α → κ) (as : List α) : Prop :=
  ∀ a ∈ as, ∀ b ∈ as, key a = key b → a = b

instance [DecidableEq α] (key : α → κ) (as : List α) : Decidable (Same key as) :=
  inferInstanceAs (Decidable (∀ a ∈ as, ∀ b ∈ as, _ → _))

namespace Same

variable {key : α → κ} {as : List α} {a : α}

omit [DecidableEq κ] in
theorem of_subset {bs : List α} (h : Same key as) (hbs : ∀ b ∈ bs, b ∈ as) : Same key bs := by
  intro a ha b hb
  exact h a (hbs a ha) b (hbs b hb)

omit [DecidableEq κ] in
theorem init (h : Same key (as ++ [a])) : Same key as :=
  h.of_subset fun b hb => by simp [hb]

omit [DecidableEq κ] in
theorem mem_of_mem_keys (h : Same key (as ++ [a])) (ha : key a ∈ as.map key) : a ∈ as := by
  obtain ⟨b, hb, hkey⟩ := List.mem_map.mp ha
  obtain rfl : b = a := h b (by simp [hb]) a (by simp) hkey
  exact hb

theorem mem_firsts (h : Same key as) : a ∈ firsts key as ↔ a ∈ as := by
  constructor
  · exact mem_of_mem_firsts
  · intro ha
    obtain ⟨b, hb, hkey⟩ :=
      List.mem_map.mp ((mem_keys_firsts key as (key a)).mpr (List.mem_map_of_mem ha))
    obtain rfl : b = a := h b (mem_of_mem_firsts hb) a ha hkey
    exact hb

/-- It does not matter how an item is joined to itself, if that does not change it. -/
theorem collect_eq_firsts {join : α → α → α} (h : Same key as) (hjoin : ∀ a, join a a = a) :
  collect key join as = firsts key as
  := by
  induction as using List.reverseRecOn with
  | nil => rfl
  | append_singleton as a ih =>
    rw [collect_concat, ih h.init, firsts_concat]
    split
    · next ha =>
      apply insertWith_of_mem
      · intro b hb hkey
        obtain rfl : b = a := h b (by simp [mem_of_mem_firsts hb]) a (by simp) hkey
        apply hjoin
      · exact (mem_keys_firsts key as (key a)).mpr ha
    · next ha =>
      apply insertWith_of_not_mem
      intro hmem
      exact ha ((mem_keys_firsts key as (key a)).mp hmem)

/-- Dropping repetitions before items are mapped does not change which of the results come first. -/
theorem firsts_filterMap_firsts {β ι : Type} [DecidableEq ι] {key' : β → ι} (h : Same key as)
    (f : α → Option β) :
  firsts key' ((firsts key as).filterMap f) = firsts key' (as.filterMap f)
  := by
  induction as using List.reverseRecOn with
  | nil => rfl
  | append_singleton as a ih =>
    rw [firsts_concat, List.filterMap_append]
    split
    · next ha =>
      rw [ih h.init]
      cases hf : f a with
      | none => simp [hf]
      | some b =>
        have hb : b ∈ as.filterMap f :=
          List.mem_filterMap.mpr ⟨a, h.mem_of_mem_keys ha, hf⟩
        simp only [List.filterMap_cons, hf, List.filterMap_nil]
        rw [firsts_concat, if_pos (List.mem_map_of_mem hb)]
    · rw [List.filterMap_append]
      exact firsts_append_congr (ih h.init) rfl

theorem firsts_filter_firsts (h : Same key as) (p : α → Bool) :
  firsts key ((firsts key as).filter p) = firsts key (as.filter p)
  := by
  rw [← List.filterMap_eq_filter]
  apply h.firsts_filterMap_firsts

/-- What is found first by some test is found first among the first items. -/
theorem find?_firsts (h : Same key as) (p : α → Bool) : (firsts key as).find? p = as.find? p := by
  induction as using List.reverseRecOn with
  | nil => rfl
  | append_singleton as a ih =>
    rw [firsts_concat, List.find?_append]
    split
    · next ha =>
      have hmem := h.mem_of_mem_keys ha
      rw [ih h.init]
      cases hfind : as.find? p with
      | some b => rfl
      | none => simp [List.find?_eq_none.mp hfind a hmem]
    · rw [List.find?_append, ih h.init]

theorem any_firsts (h : Same key as) (p : α → Bool) : (firsts key as).any p = as.any p := by
  rw [Bool.eq_iff_iff]
  simp only [List.any_eq_true, h.mem_firsts]

theorem lasts_filter_firsts (h : Same key as) (p : α → Bool) :
  lasts key ((firsts key as).filter p) = lasts key (as.filter p)
  := by
  have hlasts : ∀ bs : List α, (∀ b ∈ bs, b ∈ as) → lasts key bs = firsts key bs := by
    intro bs hbs
    apply (h.of_subset hbs).collect_eq_firsts
    intro a
    rfl
  rw [hlasts, hlasts, h.firsts_filter_firsts]
  · intro b hb
    exact (List.mem_filter.mp hb).1
  · intro b hb
    exact mem_of_mem_firsts (List.mem_filter.mp hb).1

end Same

omit [DecidableEq κ] in
theorem same_of_nodup {key : α → κ} {as : List α} (h : (as.map key).Nodup) : Same key as := by
  intro a ha b hb hkey
  exact List.inj_on_of_nodup_map h ha hb hkey

/-! ### Last items -/

theorem mem_keys_lasts (key : α → κ) (as : List α) (k : κ) :
  k ∈ (lasts key as).map key ↔ k ∈ as.map key
  := mem_keys_collect (fun _ _ h => h.symm) as k

theorem nodup_keys_lasts (key : α → κ) (as : List α) :
  ((lasts key as).map key).Nodup
  := nodup_keys_collect (fun _ _ h => h.symm) as

/-! ### Distinct items -/

@[simp] theorem mem_distinct {as : List κ} {a : κ} :
  a ∈ distinct as ↔ a ∈ as
  := by
  simpa [distinct] using mem_keys_firsts id as a

theorem nodup_distinct (as : List κ) :
  (distinct as).Nodup
  := by
  simpa [distinct] using nodup_keys_firsts id as

theorem distinct_eq_eraseDups (as : List κ) : distinct as = as.eraseDups := by
  have hkeys : (collect id (fun old _ => old) as).map id = (as.map id).eraseDups :=
    keys_collect (fun _ _ _ => rfl) as
  simpa [distinct, firsts] using hkeys

/-- In which order the items come only matters to the order of the distinct ones. -/
theorem distinct_perm {as bs : List κ} (h : as.Perm bs) : (distinct as).Perm (distinct bs) := by
  rw [List.perm_ext_iff_of_nodup (nodup_distinct as) (nodup_distinct bs)]
  intro a
  rw [mem_distinct, mem_distinct, h.mem_iff]

theorem distinct_eq_singleton_iff {as : List κ} {a : κ} :
  distinct as = [a] ↔ as ≠ [] ∧ ∀ b ∈ as, b = a
  := by
  constructor
  · intro h
    have hmem : ∀ b, b ∈ as ↔ b = a := by
      intro b
      rw [← mem_distinct, h, List.mem_singleton]
    refine ⟨List.ne_nil_of_mem ((hmem a).mpr rfl), ?_⟩
    intro b hb
    exact (hmem b).mp hb
  · rintro ⟨hne, hall⟩
    have hreplicate : distinct as = List.replicate (distinct as).length a := by
      apply List.eq_replicate_of_mem
      intro b hb
      exact hall b (mem_distinct.mp hb)
    have hpos : (distinct as).length ≠ 0 := by
      obtain ⟨b, hb⟩ := List.exists_mem_of_ne_nil as hne
      apply Nat.ne_of_gt
      apply List.length_pos_of_mem (mem_distinct.mpr hb)
    have hle : (distinct as).length ≤ 1 := by
      apply List.nodup_replicate.mp
      rw [← hreplicate]
      apply nodup_distinct
    have hone : (distinct as).length = 1 := by omega
    rw [hreplicate, hone]
    rfl

end Lineage.Keyed
