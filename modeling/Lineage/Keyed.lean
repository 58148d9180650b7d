/-!
# Keyed lists

A keyed list has one item per key and keeps the keys in the order in which they first came.
`Keyed.collect` makes one of any list; its argument says what becomes of an item when
another one of the same key comes along.
-/

namespace Lineage.Keyed

variable {α κ : Type} [DecidableEq κ]

/-- The list with an item added under its key: joined to the item that has the key already,
or at the end. -/
def insertWith (key : α → κ) (join : α → α → α) (a : α) : List α → List α
  | [] => [a]
  | b :: bs =>
    if key b = key a then join b a :: bs else b :: insertWith key join a bs

/-- The items of a list under their keys. -/
def collect (key : α → κ) (join : α → α → α) (as : List α) : List α :=
  as.foldl (fun kept a => insertWith key join a kept) []

/-- The first item of every key. -/
def firsts (key : α → κ) (as : List α) : List α :=
  collect key (fun old _ => old) as

/-- The last item of every key, in the place of the first. -/
def lasts (key : α → κ) (as : List α) : List α :=
  collect key (fun _ new => new) as

/-- The distinct items of a list, in the order in which they first come. -/
def distinct {α : Type} [DecidableEq α] (as : List α) : List α :=
  firsts id as

@[simp] theorem collect_nil (key : α → κ) (join : α → α → α) :
  collect key join [] = []
  := rfl

/-- Inserting puts a new key at the end and leaves the others in place. -/
theorem keys_insertWith (key : α → κ) (join : α → α → α)
    (hjoin : ∀ b a, key b = key a → key (join b a) = key b) (a : α) (bs : List α) :
  (insertWith key join a bs).map key
    = if key a ∈ bs.map key then bs.map key else bs.map key ++ [key a]
  := by
  induction bs with
  | nil => simp [insertWith]
  | cons b bs ih =>
    by_cases h : key b = key a
    · simp [insertWith, h, hjoin b a h]
    · have h' : ¬key a = key b := fun e => h e.symm
      simp only [insertWith, h, if_false, List.map_cons, ih, List.mem_cons, h', false_or]
      split <;> simp

end Lineage.Keyed
