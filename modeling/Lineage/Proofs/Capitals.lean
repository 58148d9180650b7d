import Lineage.Text.Case
import Mathlib.Data.List.Basic
import Mathlib.Tactic.Common

/-!
# Capital letters

A text in capital letters is its own capital form: no character that stands in the capital form
of another one has a capital form other than itself. The tables list some thousand characters on
either side, so the two sets are compared as numbers, with a binary digit for every code point.
-/

namespace Lineage.Text

/-! ### Sets as numbers -/

/-- The number whose binary digits tell what is in a list. -/
def mask (codes : List Nat) : Nat :=
  codes.foldr (fun n m => m ||| 1 <<< n) 0

theorem testBit_mask (codes : List Nat) (n : Nat) :
  (mask codes).testBit n = true ↔ n ∈ codes
  := by
  induction codes with
  | nil => simp [mask]
  | cons k codes ih =>
    have hdigit : (1 <<< k : Nat).testBit n = true ↔ n = k := by
      rw [Nat.one_shiftLeft, Nat.testBit_two_pow, decide_eq_true_iff, eq_comm]
    have hcons : mask (k :: codes) = mask codes ||| 1 <<< k := rfl
    rw [hcons, Nat.testBit_or, Bool.or_eq_true_iff, ih, hdigit, List.mem_cons, or_comm]

/-- Lists whose numbers have no binary digit in common have no item in common. -/
theorem disjoint_of_mask {xs ys : List Nat} (h : mask xs &&& mask ys = 0) : xs.Disjoint ys := by
  intro n hx hy
  have hbit : (mask xs &&& mask ys).testBit n = true := by
    rw [Nat.testBit_and, (testBit_mask xs n).mpr hx, (testBit_mask ys n).mpr hy]
    rfl
  simp [h] at hbit

/-! ### Small letters and their capital forms -/

/-- The code points that a run holds. -/
def Run.codes (r : Run) : List Nat :=
  (List.range ((r.last - r.first) / r.step + 1)).map fun k => r.first + r.step * k

theorem Run.mem_codes {r : Run} {n : Nat} (h : r.holds n = true) : n ∈ r.codes := by
  obtain ⟨⟨hfirst, hlast⟩, hstep⟩ : (r.first ≤ n ∧ n ≤ r.last) ∧ (n - r.first) % r.step = 0 := by
    simpa [holds] using h
  refine List.mem_map.mpr ⟨(n - r.first) / r.step, ?_, ?_⟩
  · rw [List.mem_range, Nat.lt_succ_iff]
    apply Nat.div_le_div_right
    omega
  · have hdiv := Nat.div_add_mod (n - r.first) r.step
    omega

/-- Where a run moves a code point. -/
def Run.move (r : Run) (n : Nat) : Nat :=
  ((n : Int) + r.shift).toNat

/-- The code points of the characters that are not their own capital form. -/
def smallCodes : List Nat :=
  List.range' 0x61 26 ++ raising.flatMap Run.codes ++ expanding.map Prod.fst

/-- The code points in the capital forms of these characters. -/
def capitalCodes : List Nat :=
  List.range' 0x41 26 ++ (raising.flatMap fun r => r.codes.map r.move) ++ expanding.flatMap Prod.snd

theorem smallCodes_disjoint_capitalCodes : smallCodes.Disjoint capitalCodes :=
  disjoint_of_mask (by decide +kernel)

/-- All code points in capital forms are characters. -/
theorem toNat_ofNat_of_mem_capitalCodes : ∀ n ∈ capitalCodes, (Char.ofNat n).toNat = n := by
  decide +kernel

/-! ### Capital forms -/

/-- In ASCII, the small letters stand 32 places after the capital ones. -/
theorem toUpper_ascii {c : Char} (h : c.toNat < 128) :
  (c.toUpper = c ∧ c.toNat ∉ List.range' 0x61 26)
    ∨ c.toUpper.toNat ∈ List.range' 0x41 26 ∧ c.toNat ∈ List.range' 0x61 26
  := by
  have hall : ∀ n < 128,
      ((Char.ofNat n).toUpper = Char.ofNat n ∧ (Char.ofNat n).toNat ∉ List.range' 0x61 26)
        ∨ (Char.ofNat n).toUpper.toNat ∈ List.range' 0x41 26
          ∧ (Char.ofNat n).toNat ∈ List.range' 0x61 26 := by
    decide
  simpa only [Char.ofNat_toNat] using hall c.toNat h

/-- A character that no table moves is its own capital form. -/
theorem upperChar_of_not_mem_smallCodes {c : Char} (h : c.toNat ∉ smallCodes) :
  upperChar c = [c]
  := by
  simp only [smallCodes, List.mem_append, not_or] at h
  obtain ⟨⟨hascii, hraising⟩, hexpanding⟩ := h
  unfold upperChar
  split
  · next hc =>
    obtain ⟨hsame, -⟩ | ⟨-, hsmall⟩ := toUpper_ascii hc
    · rw [hsame]
    · exact absurd hsmall hascii
  · have hlookup : expanding.lookup c.toNat = none := by
      rw [List.lookup_eq_none_iff]
      intro p hp
      rw [bne_iff_ne]
      rintro heq
      exact hexpanding (List.mem_map.mpr ⟨p, hp, heq.symm⟩)
    have hfind : raising.find? (·.holds c.toNat) = none := by
      rw [List.find?_eq_none]
      intro r hr hholds
      exact hraising (List.mem_flatMap.mpr ⟨r, hr, Run.mem_codes hholds⟩)
    simp [hlookup, shifted?, hfind]

/-- What stands in the capital form of a character has a capital code point, unless it is the
character itself. -/
theorem mem_upperChar {c d : Char} (h : d ∈ upperChar c) :
  upperChar c = [c] ∨ d.toNat ∈ capitalCodes
  := by
  have hcode : ∀ n ∈ capitalCodes, d = Char.ofNat n → d.toNat ∈ capitalCodes := by
    rintro n hn rfl
    rwa [toNat_ofNat_of_mem_capitalCodes n hn]
  unfold upperChar at h ⊢
  split at h
  · next hc =>
    obtain rfl := List.mem_singleton.mp h
    rw [if_pos hc]
    obtain ⟨hsame, -⟩ | ⟨hcapital, -⟩ := toUpper_ascii hc
    · exact Or.inl (by rw [hsame])
    · exact Or.inr (by simp [capitalCodes, hcapital])
  · next hc =>
    rw [if_neg hc]
    cases hlookup : expanding.lookup c.toNat with
    | some codes =>
      simp only [hlookup] at h
      obtain ⟨n, hn, hd⟩ := List.mem_map.mp h
      right
      apply hcode n _ hd.symm
      have hmem : (c.toNat, codes) ∈ expanding := by
        obtain ⟨before, after, hsplit, -⟩ := List.lookup_eq_some_iff.mp hlookup
        simp [hsplit]
      simp only [capitalCodes, List.mem_append]
      exact Or.inr (List.mem_flatMap.mpr ⟨_, hmem, hn⟩)
    | none =>
      cases hfind : raising.find? (·.holds c.toNat) with
      | none => simp [shifted?, hfind]
      | some r =>
        right
        apply hcode (r.move c.toNat)
        · have hholds : r.holds c.toNat = true := by simpa using List.find?_some hfind
          have hmem : r.move c.toNat ∈ r.codes.map r.move :=
            List.mem_map_of_mem (Run.mem_codes hholds)
          simp only [capitalCodes, List.mem_append]
          exact Or.inl (Or.inr (List.mem_flatMap.mpr ⟨r, List.mem_of_find?_eq_some hfind, hmem⟩))
        · simpa [hlookup, shifted?, hfind, Run.move] using h

theorem upperChar_of_mem_upperChar {c d : Char} (h : d ∈ upperChar c) : upperChar d = [d] := by
  rcases mem_upperChar h with hsame | hcapital
  · rw [hsame, List.mem_singleton] at h
    rwa [h]
  · apply upperChar_of_not_mem_smallCodes
    intro hsmall
    exact smallCodes_disjoint_capitalCodes hsmall hcapital

/-- A text in capital letters is its own capital form. -/
@[simp] theorem upper_upper (s : String) : upper (upper s) = upper s := by
  have hchars : ∀ cs : List Char,
      (cs.flatMap upperChar).flatMap upperChar = cs.flatMap upperChar := by
    intro cs
    rw [List.flatMap_assoc]
    congr 1
    funext c
    calc (upperChar c).flatMap upperChar
        = (upperChar c).flatMap fun d => [d] := by
          apply List.flatMap_congr
          intro d hd
          apply upperChar_of_mem_upperChar hd
      _ = upperChar c := by simp
  simp [upper, hchars]

end Lineage.Text
