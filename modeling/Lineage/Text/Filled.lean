/-!
# Filled texts

A text that may be missing and a text that is empty mean the same almost everywhere in a
lineage record: nothing is known. `filled` keeps a text only if there is something in it,
and `orElse` takes the first of two texts that has something in it.
-/

namespace Lineage.Text

/-- The text, unless it is missing or empty. -/
def filled (t : Option String) : Option String :=
  t.filter (· ≠ "")

/-- Whether a text is there and not empty. -/
def isFilled (t : Option String) : Bool :=
  (filled t).isSome

/-- The first text if it is filled, otherwise the second, whatever it is. -/
def orElse (t u : Option String) : Option String :=
  if isFilled t then t else u

@[simp] theorem filled_none : filled none = none := rfl

@[simp] theorem filled_some (s : String) :
  filled (some s) = if s = "" then none else some s
  := by
  by_cases h : s = "" <;> simp [filled, Option.filter, h]

/-- Only a text that is there can be filled. -/
theorem filled_eq_some_iff {t : Option String} {s : String} :
  filled t = some s ↔ t = some s ∧ s ≠ ""
  := by
  cases t with
  | none => simp
  | some u => by_cases h : u = "" <;> simp [h]; grind

@[simp] theorem orElse_none (u : Option String) : orElse none u = u := rfl

end Lineage.Text
