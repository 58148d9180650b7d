import Lineage.Proofs.Capitals
import Lineage.QualifiedName

/-!
# Names that cannot be taken apart

`QualifiedName.split` fails for some names. Why it fails shows in the characters of the name: there
are three dots, a semicolon, or one of the characters without which a name has no arguments.

The characters of the tokens come from the name. Where none of the `openers` is among them, a
reader of parts never gets to an argument, and so it reads what it finds or refuses it.
-/

namespace Lineage.QualifiedName

/-- The characters without which a name has no arguments: they begin those of a call, the name of a
parameter, or the time of a table. -/
def openers : List Char :=
  ['(', '@', '=']

/-- The characters that do not stand in phrases, so that tokens have them from the name only. -/
def telling : List Char :=
  ';' :: openers

/-- Whether tokens have what is telling in them from some characters. -/
def AreFrom (cs : List Char) (ts : List Token) : Prop :=
  ∀ t ∈ ts, ∀ c ∈ telling, c ∈ t.text → c ∈ cs

theorem AreFrom.append {cs : List Char} {ts us : List Token} (hts : AreFrom cs ts)
    (hus : AreFrom cs us) :
  AreFrom cs (ts ++ us)
  := by
  intro t ht
  rcases List.mem_append.mp ht with ht | ht
  · apply hts t ht
  · apply hus t ht

theorem AreFrom.mono {cs ds : List Char} {ts : List Token} (h : AreFrom cs ts) (hsub : cs ⊆ ds) :
  AreFrom ds ts
  := by
  intro t ht c hc hmem
  apply hsub (h t ht c hc hmem)

/-- Whether there is no opener in some tokens. -/
def AreQuiet (ts : List Token) : Prop :=
  ∀ t ∈ ts, ∀ c ∈ openers, c ∉ t.text

namespace AreQuiet

variable {t : Token} {ts : List Token} {word : String}

theorem of_subset {us : List Token} (h : AreQuiet ts) (hsub : us ⊆ ts) : AreQuiet us := by
  intro u hu
  apply h u (hsub hu)

theorem tail (h : AreQuiet (t :: ts)) : AreQuiet ts :=
  h.of_subset (List.subset_cons_self t ts)

end AreQuiet

/-! ### Readers -/

theorem bind_of_eq_ok {α β : Type} {r : Reader α} {ts rest : List Token} {a : α}
    (h : r ts = .ok (a, rest)) (k : α → Reader β) :
  (r >>= k) ts = k a rest
  := by
  simp only [Bind.bind, StateT.bind, h, Except.bind]

/-- Whether a reader of quiet tokens reads something and leaves quiet tokens. -/
def IsTotal {α : Type} (r : Reader α) : Prop :=
  ∀ ts, AreQuiet ts → ∃ a rest, r ts = .ok (a, rest) ∧ AreQuiet rest

namespace IsTotal

variable {α β : Type}

theorem pure (a : α) : IsTotal (Pure.pure a) := by
  intro ts hts
  exact ⟨a, ts, rfl, hts⟩

theorem bind {r : Reader α} {k : α → Reader β} (hr : IsTotal r) (hk : ∀ a, IsTotal (k a)) :
  IsTotal (r >>= k)
  := by
  intro ts hts
  obtain ⟨a, rest, hread, hrest⟩ := hr ts hts
  obtain ⟨b, last, hgoes, hlast⟩ := hk a rest hrest
  refine ⟨b, last, ?_, hlast⟩
  rw [bind_of_eq_ok hread, hgoes]

theorem get_bind {k : List Token → Reader β} (hk : ∀ ts, AreQuiet ts → IsTotal (k ts)) :
  IsTotal (get >>= k)
  := by
  intro ts hts
  apply hk ts hts ts hts

theorem set {ts : List Token} (hts : AreQuiet ts) : IsTotal (MonadState.set ts) := by
  intro _ _
  exact ⟨⟨⟩, ts, rfl, hts⟩

theorem take? (isWanted : Token → Bool) : IsTotal (QualifiedName.take? isWanted) := by
  apply get_bind
  intro ts hts
  split
  · split
    · apply (set hts.tail).bind fun _ => pure _
    · apply pure _
  · apply pure _

theorem passes (isWanted : Token → Bool) : IsTotal (QualifiedName.passes isWanted) :=
  (take? isWanted).bind fun _ => pure _

theorem orElse {first second : Reader (Option α)} (hfirst : IsTotal first)
    (hsecond : IsTotal second) :
  IsTotal (QualifiedName.orElse first second)
  := by
  apply hfirst.bind
  intro found
  cases found with
  | some a => apply pure _
  | none => apply hsecond

theorem onward {step : α → Reader (Option α)} (hstep : ∀ a, IsTotal (step a)) (a : α) :
  IsTotal (QualifiedName.onward step a)
  := by
  have honwardFor : ∀ (more : List Token) (a : α), IsTotal (onwardFor step more a) := by
    intro more
    induction more with
    | nil => apply pure
    | cons t more ih =>
      intro a
      apply (hstep a).bind
      intro next
      cases next with
      | some b => apply ih b
      | none => apply pure a
  apply get_bind fun ts _ => honwardFor ts a

variable {k : Bool → Reader β} {word : String}

theorem acceptTexts (words : List String) : IsTotal (QualifiedName.acceptTexts words) := by
  apply get_bind
  intro ts hts
  split
  · apply (set (hts.of_subset (List.drop_subset _ _))).bind fun _ => pure _
  · apply pure _

end IsTotal

/-- Without a semicolon there is only one place for a path. -/
theorem chunks_eq_singleton {ts : List Token} (h : .semicolon ∉ ts) : chunks ts = [ts] := by
  induction ts with
  | nil => rfl
  | cons t ts ih =>
    rw [List.mem_cons, not_or] at h
    rw [chunks, if_neg (Ne.symm h.1), ih h.2]

end Lineage.QualifiedName
