import Lineage.Json.Writer
import Lineage.Proofs.JsonTokens
import Mathlib.Algebra.Group.Int.Defs
import Mathlib.Algebra.Group.Nat.Defs

/-!
# Reading what is written

A value that has neither real numbers nor moments and no half characters in its texts is read back
from its JSON text as it is, unless one of its integers has more digits than are read. Then the
first of these integers is what cannot be read.

The reading of a value is followed through whatever comes after it in the text, as long as that
does not go on with a number, and as long as the fuel is at least the length of what is written.
-/

namespace Lineage

mutual

/-- The integers of a value in the order in which they are written. -/
def Data.integers : Data → List Int
  | .int n => [n]
  | .list ds => Data.itemIntegers ds
  | .record ms => Data.memberIntegers ms
  | _ => []

/-- The integers of some values. -/
def Data.itemIntegers : List Data → List Int
  | [] => []
  | d :: ds => d.integers ++ Data.itemIntegers ds

/-- The integers of the values of some members. -/
def Data.memberIntegers : List (String × Data) → List Int
  | [] => []
  | (_, d) :: ms => d.integers ++ Data.memberIntegers ms

end

/-- A value that can be written as it is. -/
inductive Data.IsWritable : Data → Prop where
  | null : IsWritable .null
  | bool (b : Bool) : IsWritable (.bool b)
  | int (n : Int) : IsWritable (.int n)
  | text {s : String} (hs : Text.isWhole s = true) : IsWritable (.text s)
  | list {ds : List Data} (hds : ∀ d ∈ ds, IsWritable d) : IsWritable (.list ds)
  | record {ms : List (String × Data)} (hnames : ∀ m ∈ ms, Text.isWhole m.1 = true)
    (hms : ∀ m ∈ ms, IsWritable m.2) : IsWritable (.record ms)

namespace Json

/-! ### Outcomes -/

/-- The number of decimal digits of an integer. -/
def digitCount (n : Int) : Nat :=
  (Nat.toDigits 10 n.natAbs).length

/-- Whether an integer has more digits than are read. -/
def isLong (n : Int) : Bool :=
  digitLimit < digitCount n

/-- An integer is not too long exactly if it is below a power of ten. -/
theorem isLong_eq_false_iff {n : Int} : isLong n = false ↔ n.natAbs < 10 ^ digitLimit := by
  rw [← Nat.length_toDigits_le_iff (by decide) (by decide), isLong, digitCount, decide_eq_false_iff_not,
    Nat.not_lt]

/-- What is read of a text that writes some value with some integers in it, and goes on after it:
the value and the rest of the text, unless one of the integers is too long. -/
def Reads {α : Type} (outcome : Except Fault (α × List Char)) (integers : List Int) (a : α)
    (rest : List Char) : Prop :=
  match integers.find? isLong with
  | none => outcome = .ok (a, rest)
  | some n => ∃ place, outcome = .error ⟨.longInteger (digitCount n), place⟩

namespace Reads

variable {α β : Type} {outcome : Except Fault (α × List Char)}
  {outcome' : Except Fault (β × List Char)} {ms ns : List Int} {a : α} {b : β}
  {rest rest' : List Char}

theorem ok (h : outcome = .ok (a, rest)) : Reads outcome [] a rest := h

/-- A text that is read in two steps: if the first of them fails, so does the whole. -/
theorem step (h : Reads outcome ms a rest)
    (herror : ∀ fault, outcome = .error fault → outcome' = .error fault)
    (hok : outcome = .ok (a, rest) → Reads outcome' ns b rest') :
  Reads outcome' (ms ++ ns) b rest'
  := by
  unfold Reads at h ⊢
  rw [List.find?_append]
  cases hfind : ms.find? isLong with
  | none =>
    rw [hfind] at h
    apply hok h
  | some n =>
    rw [hfind] at h
    obtain ⟨place, hplace⟩ := h
    exact ⟨place, herror _ hplace⟩

/-- What is made of what was read. -/
theorem map (h : Reads outcome ms a rest)
    (herror : ∀ fault, outcome = .error fault → outcome' = .error fault)
    (hok : outcome = .ok (a, rest) → outcome' = .ok (b, rest')) :
  Reads outcome' ms b rest'
  := by
  rw [← List.append_nil ms]
  exact h.step herror hok

theorem put {outcome : Except Fault (List α × List Char)} {as : List α}
    (h : Reads outcome ms as rest) (a : α) :
  Reads (Json.put a outcome) ms (a :: as) rest
  := by
  apply h.map
  · rintro fault rfl
    rfl
  · rintro rfl
    rfl

end Reads

/-! ### White space -/

/-- The break before an item is skipped. -/
theorem skip_lineBreak (style : Style) (depth : Nat) {c : Char} (hc : isBlank c = false)
    (cs : List Char) :
  skip (lineBreak style depth ++ c :: cs) = c :: cs
  := by
  have hblank : ∀ b ∈ lineBreak style depth, isBlank b = true := by
    intro b hb
    unfold lineBreak at hb
    split at hb
    · rcases List.mem_cons.mp hb with rfl | hb
      · rfl
      · rw [(List.mem_replicate.mp hb).2]
        rfl
    · cases hb
  rw [skip, List.dropWhile_append_of_pos hblank]
  apply skip_cons hc cs

/-! ### Texts -/

theorem keep_of_lt : ∀ n < 0x20, Text.keep n = [Char.ofNat n] := by
  decide

theorem isHighHalf_of_lt : ∀ n < 0x20, isHighHalf n = false := by
  decide

theorem code?_codeEscape : ∀ n < 0x20,
  code? (hexDigit (n / 4096 % 16)) (hexDigit (n / 256 % 16)) (hexDigit (n / 16 % 16))
    (hexDigit (n % 16)) = some n
  := by
  decide

/-- The code of a control character stands for it, whatever follows. -/
theorem assemble_code {n : Nat} (hn : n < 0x20) (letters : List Letter) :
  assemble (.code n :: letters) = Char.ofNat n :: assemble letters
  := by
  cases letters with
  | nil => simp [assemble, keep_of_lt n hn]
  | cons letter letters =>
    cases letter with
    | plain c => simp [assemble, keep_of_lt n hn]
    | code m => simp [assemble, keep_of_lt n hn, isHighHalf_of_lt n hn]

/-- A character is read back from how it stands in a text, as one letter. -/
theorem exists_letter {c : Char} (hc : Text.keepsHalf c = false) :
  ∃ letter, (∀ letters, assemble (letter :: letters) = c :: assemble letters)
    ∧ ∀ start more, more ≠ [] →
      textBody start (escapeChar c ++ more) = put letter (textBody start more)
  := by
  have hplain : ∀ letters, assemble (.plain c :: letters) = c :: assemble letters :=
    fun _ => rfl
  unfold escapeChar
  split_ifs with hquote hslash hnewline hreturn htab hback hfeed hcontrol hhalf
  -- first the characters that have an escape of one letter
  iterate 7
    · subst c
      exact ⟨_, hplain, fun start more _ => textBody_letter rfl (by decide) start more⟩
  · refine ⟨.code c.toNat, ?_, ?_⟩
    · intro letters
      rw [assemble_code hcontrol, Char.ofNat_toNat]
    · intro start more hmore
      simp [codeEscape, textBody, code?_codeEscape c.toNat hcontrol, hmore]
  · rw [hhalf] at hc
    cases hc
  · refine ⟨_, hplain, ?_⟩
    intro start more _
    simp [textBody, hslash, hcontrol]

/-- A text of whole characters is read back from its quotes. -/
theorem exists_letters (start rest : List Char) {cs : List Char}
    (hcs : ∀ c ∈ cs, Text.keepsHalf c = false) :
  ∃ letters, textBody start (cs.flatMap escapeChar ++ '"' :: rest) = .ok (letters, rest)
    ∧ assemble letters = cs
  := by
  induction cs with
  | nil => exact ⟨[], rfl, rfl⟩
  | cons c cs ih =>
    obtain ⟨letters, hletters, hcs'⟩ := ih fun c hc => hcs c (List.mem_cons_of_mem _ hc)
    obtain ⟨letter, hassemble, hread⟩ := exists_letter (hcs c List.mem_cons_self)
    refine ⟨letter :: letters, ?_, ?_⟩
    · rw [List.flatMap_cons, List.append_assoc, hread start _ (by simp), hletters]
      rfl
    · rw [hassemble, hcs']

theorem textBody_quoted {style : Style} (hstyle : style.asciiOnly = false) {s : String}
    (hs : Text.isWhole s = true) (rest : List Char) :
  ∃ more letters, quoted style s ++ rest = '"' :: more
    ∧ textBody ('"' :: more) more = .ok (letters, rest) ∧ textOf letters = s
  := by
  have hcs : ∀ c ∈ s.toList, Text.keepsHalf c = false := by
    simpa [Text.isWhole] using hs
  refine ⟨s.toList.flatMap escapeChar ++ '"' :: rest, ?_⟩
  obtain ⟨letters, hread, hletters⟩ :=
    exists_letters ('"' :: (s.toList.flatMap escapeChar ++ '"' :: rest)) rest hcs
  refine ⟨letters, ?_, hread, ?_⟩
  · simp [quoted, hstyle]
  · rw [textOf, hletters, String.ofList_toList]

/-! ### Numbers -/

/-- The digits of a positive number do not begin with a zero. -/
theorem exists_toDigits {m : Nat} (hm : 0 < m) :
  ∃ c cs, Nat.toDigits 10 m = c :: cs ∧ c ≠ '0'
  := by
  induction m using Nat.strong_induction_on with
  | _ m ih =>
    by_cases hlt : m < 10
    · refine ⟨m.digitChar, [], Nat.toDigits_of_lt_base hlt, ?_⟩
      have hall : ∀ m < 10, 0 < m → m.digitChar ≠ '0' := by decide
      apply hall m hlt hm
    · obtain ⟨c, cs, hcs, hc⟩ := ih (m / 10) (by omega) (by omega)
      refine ⟨c, cs ++ [(m % 10).digitChar], ?_, hc⟩
      rw [Nat.toDigits_of_base_le (by decide) (by omega), hcs, List.cons_append]

/-- The digits of a number are all of its whole part. -/
theorem wholePart_toDigits (m : Nat) {rest : List Char} (hrest : Ends rest) :
  wholePart (Nat.toDigits 10 m ++ rest) = (Nat.toDigits 10 m, rest)
  := by
  have hspan : (Nat.toDigits 10 m ++ rest).span Char.isDigit = (Nat.toDigits 10 m, rest) := by
    apply span_digits _ hrest.endsDigits
    intro c hc
    apply Nat.isDigit_of_mem_toDigits (by decide) (by decide) hc
  by_cases hm : m = 0
  · subst hm
    simp [wholePart]
  · obtain ⟨c, cs, hcs, hc⟩ := exists_toDigits (Nat.pos_of_ne_zero hm)
    rw [hcs] at hspan ⊢
    rw [← hspan, List.cons_append]
    simp [wholePart, hc]

theorem ofDigits_toDigits (m : Nat) : ofDigits (Nat.toDigits 10 m) = m := by
  conv_rhs => rw [← Nat.ofDigitChars_ten_toDigits (n := m)]
  simp only [ofDigits, Nat.ofDigitChars_eq_foldl, Nat.mul_comm]

/-- A sign and digits are read as an integer, unless there are too many digits. -/
theorem number_signed (negative : Bool) (m : Nat) {rest : List Char} (hrest : Ends rest) :
  number (sign negative ++ (Nat.toDigits 10 m ++ rest))
    = if digitLimit < (Nat.toDigits 10 m).length then
        .error ⟨.longInteger (Nat.toDigits 10 m).length,
          sign negative ++ (Nat.toDigits 10 m ++ rest)⟩
      else .ok (.int (if negative then -m else m), rest)
  := by
  have hunsigned : negative = false → ∀ more, Nat.toDigits 10 m ++ rest ≠ '-' :: more := by
    rintro - more hmore
    obtain ⟨d, ds, hdigits⟩ := List.exists_cons_of_ne_nil (Nat.toDigits_ne_nil (b := 10) (n := m))
    rw [hdigits] at hmore
    have hd : d.isDigit = true :=
      Nat.isDigit_of_mem_toDigits (b := 10) (n := m) (by decide) (by decide) (by simp [hdigits])
    apply ne_of_isDigit hd (d := '-') rfl (List.cons.inj hmore).1
  rw [number_of_parts hunsigned (wholePart_toDigits m hrest)
    (fraction_of_endsFraction hrest.endsFraction) (exponent_of_ends hrest)]
  simp [Nat.toDigits_ne_nil, ofDigits_toDigits]

/-- The digits of an integer are read as it, unless there are too many. -/
theorem number_integer (n : Int) {rest : List Char} (hrest : Ends rest) :
  number (integer n ++ rest)
    = if isLong n then .error ⟨.longInteger (digitCount n), integer n ++ rest⟩
      else .ok (.int n, rest)
  := by
  have hinteger : integer n ++ rest = sign (n < 0) ++ (Nat.toDigits 10 n.natAbs ++ rest) := by
    by_cases hn : n < 0 <;> simp [integer, sign, hn]
  have hsign : (if n < 0 then -(n.natAbs : Int) else n.natAbs) = n := by
    split <;> omega
  have hnumber := number_signed (decide (n < 0)) n.natAbs hrest
  simp only [decide_eq_true_eq, hsign] at hnumber
  rw [hinteger, hnumber]
  simp only [isLong, decide_eq_true_eq]
  rfl

/-! ### Values -/

/-- An integer begins with a digit, or with a sign and a digit. -/
theorem exists_integer (n : Int) :
  ∃ d ds, d.isDigit = true ∧ (integer n = d :: ds ∨ integer n = '-' :: d :: ds)
  := by
  obtain ⟨d, ds, hdigits⟩ :=
    List.exists_cons_of_ne_nil (Nat.toDigits_ne_nil (b := 10) (n := n.natAbs))
  refine ⟨d, ds, ?_, ?_⟩
  · apply Nat.isDigit_of_mem_toDigits (b := 10) (n := n.natAbs) (by decide) (by decide)
    simp [hdigits]
  · unfold integer
    rw [hdigits]
    split
    · exact Or.inr rfl
    · exact Or.inl rfl

/-- An integer is neither a text, a list or a record nor one of the words. -/
theorem value_integer (fuel : Nat) (n : Int) (rest : List Char) :
  value (fuel + 1) (integer n ++ rest) = number (integer n ++ rest)
  := by
  obtain ⟨d, ds, hd, hinteger | hinteger⟩ := exists_integer n
  · rw [hinteger]
    apply value_of_digit fuel hd (Or.inl rfl)
  · rw [hinteger]
    apply value_of_digit fuel hd (Or.inr rfl)

/-- What is written for a value begins neither with a blank, nor with the end of a list, nor with
the mark that some texts begin with. -/
theorem exists_writeAt (style : Style) (depth : Nat) (d : Data) :
  ∃ c cs, writeAt style depth d = c :: cs ∧ isBlank c = false ∧ c ≠ ']' ∧ c ≠ '\uFEFF'
  := by
  cases d with
  | null => exact ⟨'n', _, rfl, by decide⟩
  | bool b =>
    cases b with
    | true => exact ⟨'t', _, rfl, by decide⟩
    | false => exact ⟨'f', _, rfl, by decide⟩
  | int n =>
    obtain ⟨d, ds, hd, hinteger | hinteger⟩ := exists_integer n
    · refine ⟨d, ds, hinteger, ?_, ?_, ?_⟩
      · simp only [isBlank, Bool.or_eq_false_iff, beq_eq_false_iff_ne]
        refine ⟨⟨⟨?_, ?_⟩, ?_⟩, ?_⟩ <;> (rintro rfl; cases hd)
      · rintro rfl
        cases hd
      · rintro rfl
        cases hd
    · exact ⟨'-', _, hinteger, by decide⟩
  | real x => exact ⟨'n', _, rfl, by decide⟩
  | text s => exact ⟨'"', _, rfl, by decide⟩
  | moment m => exact ⟨'n', _, rfl, by decide⟩
  | list ds =>
    cases ds with
    | nil => exact ⟨'[', _, rfl, by decide⟩
    | cons d ds => exact ⟨'[', _, rfl, by decide⟩
  | record ms =>
    cases ms with
    | nil => exact ⟨'\x7b', _, rfl, by decide⟩
    | cons m ms => exact ⟨'\x7b', _, rfl, by decide⟩

theorem skip_writeAt (style : Style) (depth : Nat) (d : Data) (rest : List Char) :
  skip (lineBreak style depth ++ (writeAt style depth d ++ rest)) = writeAt style depth d ++ rest
  := by
  obtain ⟨c, cs, hd, hc, -⟩ := exists_writeAt style depth d
  rw [hd, List.cons_append]
  apply skip_lineBreak style depth hc _

theorem skip_quoted (style : Style) (depth : Nat) (s : String) (rest : List Char) :
  skip (lineBreak style depth ++ (quoted style s ++ rest)) = quoted style s ++ rest
  := skip_lineBreak style depth rfl _

theorem ends_lineBreak (style : Style) (depth : Nat) {c : Char}
    (hc : c.isDigit = false ∧ c ≠ '.' ∧ c ≠ 'e' ∧ c ≠ 'E') (cs : List Char) :
  Ends (lineBreak style depth ++ c :: cs)
  := by
  unfold lineBreak
  split
  · apply Ends.cons (by decide) _
  · apply Ends.cons hc cs

section Values

variable {style : Style} {d : Data}

/-- That a value is read back from what is written for it, at any depth and whatever follows. -/
def IsRead (style : Style) (d : Data) : Prop :=
  ∀ (depth fuel : Nat) (rest : List Char), Ends rest → (writeAt style depth d).length ≤ fuel →
    Reads (value fuel (writeAt style depth d ++ rest)) d.integers d rest

/-- Something is written for every value, so there is fuel for it. -/
theorem isRead_of_succ (h : ∀ (depth fuel : Nat) (rest : List Char), Ends rest →
      (writeAt style depth d).length ≤ fuel + 1 →
        Reads (value (fuel + 1) (writeAt style depth d ++ rest)) d.integers d rest) :
  IsRead style d
  := by
  intro depth fuel rest hrest hfuel
  cases fuel with
  | zero =>
    obtain ⟨c, cs, hc, -⟩ := exists_writeAt style depth d
    simp [hc] at hfuel
  | succ fuel => apply h depth fuel rest hrest hfuel

theorem ends_writeItems (style : Style) (depth : Nat) (ds : List Data) (rest : List Char) :
  Ends (writeItems style depth ds ++ rest)
  := by
  cases ds with
  | nil =>
    rw [writeItems, List.append_assoc]
    apply ends_lineBreak style depth (by decide) rest
  | cons d ds => apply Ends.cons (by decide) _

/-- The items of a list are read back if each of them is. -/
theorem reads_items {ds : List Data} (h : ∀ e ∈ d :: ds, IsRead style e) (depth fuel : Nat)
    (hfuel : (writeAt style (depth + 1) d).length + (writeItems style depth ds).length ≤ fuel)
    (rest : List Char) :
  Reads (items fuel (writeAt style (depth + 1) d ++ (writeItems style depth ds ++ rest)))
    (Data.itemIntegers (d :: ds)) (d :: ds) rest
  := by
  induction ds generalizing d fuel with
  | nil =>
    simp only [writeItems, List.length_append, List.length_singleton] at hfuel
    obtain ⟨fuel, rfl⟩ : ∃ k, fuel = k + 1 := Nat.exists_eq_add_one.mpr (by omega)
    have hd := h d List.mem_cons_self (depth + 1) fuel _ (ends_writeItems style depth [] rest)
      (by omega)
    refine hd.step ?_ ?_
    · intro fault hfault
      rw [items, hfault]
    · intro hok
      rw [items, hok, writeItems, List.append_assoc]
      simp only [List.singleton_append, skip_lineBreak style depth (c := ']') rfl]
      apply Reads.ok rfl
  | cons e es ih =>
    simp only [writeItems, List.length_append, List.length_cons] at hfuel
    obtain ⟨fuel, rfl⟩ : ∃ k, fuel = k + 1 := Nat.exists_eq_add_one.mpr (by omega)
    have hd := h d List.mem_cons_self (depth + 1) fuel _ (ends_writeItems style depth (e :: es) rest)
      (by omega)
    refine hd.step ?_ ?_
    · intro fault hfault
      rw [items, hfault]
    · intro hok
      rw [items, hok, writeItems]
      simp only [List.cons_append, skip_cons (c := ',') rfl, List.append_assoc, skip_writeAt]
      apply Reads.put
      apply ih
      · intro e' he'
        apply h e' (List.mem_cons_of_mem _ he')
      · omega

theorem ends_writeMembers (style : Style) (depth : Nat) (ms : List (String × Data))
    (rest : List Char) :
  Ends (writeMembers style depth ms ++ rest)
  := by
  cases ms with
  | nil =>
    rw [writeMembers, List.append_assoc]
    apply ends_lineBreak style depth (by decide) rest
  | cons m ms => apply Ends.cons (by decide) _

/-- The members of a record from the value of one on whose name has been read. -/
def membersFrom (name : String) (fuel : Nat) (cs : List Char) :
    Except Fault (List (String × Data) × List Char) :=
  match value fuel cs with
  | .error fault => .error fault
  | .ok (d, rest) =>
    match skip rest with
    | '\x7d' :: rest => .ok ([(name, d)], rest)
    | ',' :: rest => put (name, d) (members fuel (skip rest))
    | rest => .error ⟨.comma, rest⟩

variable (hstyle : style.asciiOnly = false)

include hstyle

/-- The name of a member is read back, and reading goes on with its value. -/
theorem members_quoted {name : String} (hname : Text.isWhole name = true) (depth fuel : Nat)
    (d : Data) (rest : List Char) :
  members (fuel + 1) (quoted style name ++ (':' :: ' ' :: (writeAt style depth d ++ rest)))
    = membersFrom name fuel (writeAt style depth d ++ rest)
  := by
  obtain ⟨more, letters, hquoted, hread, hletters⟩ := textBody_quoted hstyle hname
    (':' :: ' ' :: (writeAt style depth d ++ rest))
  have hskip : skip (' ' :: (writeAt style depth d ++ rest)) = writeAt style depth d ++ rest := by
    obtain ⟨c, cs, hd, hc, -⟩ := exists_writeAt style depth d
    rw [hd, List.cons_append]
    apply skip_cons hc _
  rw [hquoted, members, hread]
  simp only [skip_cons (c := ':') rfl, hskip, hletters]
  rfl

/-- The members of a record are read back if the value of each of them is. -/
theorem reads_members {name : String} {ms : List (String × Data)}
    (hnames : ∀ m ∈ (name, d) :: ms, Text.isWhole m.1 = true)
    (h : ∀ m ∈ (name, d) :: ms, IsRead style m.2) (depth fuel : Nat)
    (hfuel : (writeAt style (depth + 1) d).length + (writeMembers style depth ms).length ≤ fuel)
    (rest : List Char) :
  Reads (members fuel (quoted style name
      ++ (':' :: ' ' :: (writeAt style (depth + 1) d ++ (writeMembers style depth ms ++ rest)))))
    (Data.memberIntegers ((name, d) :: ms)) ((name, d) :: ms) rest
  := by
  induction ms generalizing name d fuel with
  | nil =>
    simp only [writeMembers, List.length_append, List.length_singleton] at hfuel
    obtain ⟨fuel, rfl⟩ : ∃ k, fuel = k + 1 := Nat.exists_eq_add_one.mpr (by omega)
    have hread : IsRead style d := h (name, d) List.mem_cons_self
    have hd := hread (depth + 1) fuel _ (ends_writeMembers style depth [] rest) (by omega)
    rw [members_quoted hstyle (hnames (name, d) List.mem_cons_self), membersFrom]
    refine hd.step ?_ ?_
    · intro fault hfault
      rw [hfault]
    · intro hok
      rw [hok, writeMembers, List.append_assoc]
      simp only [List.singleton_append, skip_lineBreak style depth (c := '\x7d') rfl]
      apply Reads.ok rfl
  | cons m ms ih =>
    obtain ⟨name', e⟩ := m
    simp only [writeMembers, List.length_append, List.length_cons] at hfuel
    obtain ⟨fuel, rfl⟩ : ∃ k, fuel = k + 1 := Nat.exists_eq_add_one.mpr (by omega)
    have hread : IsRead style d := h (name, d) List.mem_cons_self
    have hd := hread (depth + 1) fuel _ (ends_writeMembers style depth ((name', e) :: ms) rest)
      (by omega)
    rw [members_quoted hstyle (hnames (name, d) List.mem_cons_self), membersFrom]
    refine hd.step ?_ ?_
    · intro fault hfault
      rw [hfault]
    · intro hok
      rw [hok, writeMembers]
      simp only [List.cons_append, skip_cons (c := ',') rfl, List.append_assoc, skip_quoted]
      apply Reads.put
      apply ih
      · intro m hm
        apply hnames m (List.mem_cons_of_mem _ hm)
      · intro m hm
        apply h m (List.mem_cons_of_mem _ hm)
      · omega

/-- A value that can be written is read back. -/
theorem isRead_of_isWritable (hd : d.IsWritable) : IsRead style d := by
  induction hd with
  | null => exact isRead_of_succ fun depth fuel rest _ _ => Reads.ok rfl
  | bool b =>
    apply isRead_of_succ
    intro depth fuel rest _ _
    cases b with
    | true => apply Reads.ok rfl
    | false => apply Reads.ok rfl
  | int n =>
    apply isRead_of_succ
    intro depth fuel rest hrest _
    rw [writeAt, value_integer, number_integer n hrest]
    unfold Reads
    cases hlong : isLong n with
    | true => simp [Data.integers, hlong]
    | false => simp [Data.integers, hlong]
  | text hs =>
    apply isRead_of_succ
    intro depth fuel rest _ _
    obtain ⟨more, letters, hquoted, hread, hletters⟩ := textBody_quoted hstyle hs rest
    apply Reads.ok
    rw [writeAt, hquoted, value, hread]
    simp only [hletters]
  | @list ds hds ih =>
    apply isRead_of_succ
    intro depth fuel rest _ hfuel
    cases ds with
    | nil => apply Reads.ok rfl
    | cons d ds =>
      simp only [writeAt, List.length_cons, List.length_append] at hfuel
      have hitems := reads_items ih depth fuel (by omega) rest
      have hmore : ∀ rest', writeAt style (depth + 1) d ++ (writeItems style depth ds ++ rest)
          ≠ ']' :: rest' := by
        obtain ⟨c, cs, hc, -, hne, -⟩ := exists_writeAt style (depth + 1) d
        simp [hc, hne]
      simp only [writeAt, List.cons_append, List.append_assoc]
      rw [value_list (skip_writeAt style _ d _) hmore]
      apply hitems.map
      · intro fault hfault
        rw [hfault]
      · intro hok
        rw [hok]
  | @record ms hnames hms ih =>
    apply isRead_of_succ
    intro depth fuel rest _ hfuel
    cases ms with
    | nil => apply Reads.ok rfl
    | cons m ms =>
      obtain ⟨name, d⟩ := m
      simp only [writeAt, List.length_cons, List.length_append] at hfuel
      have hmembers := reads_members hstyle hnames ih depth fuel (by omega) rest
      simp only [writeAt, List.cons_append, List.append_assoc, List.nil_append]
      rw [value_record (skip_quoted style _ name _) (by simp [quoted])]
      apply hmembers.map
      · intro fault hfault
        rw [hfault]
      · intro hok
        rw [hok]

end Values

/-- A value that can be written is read back from its text, unless it has a long integer. Then the
first one is what cannot be read. -/
theorem read_write (style : Style) (hstyle : style.asciiOnly = false) {d : Data}
    (hd : d.IsWritable) :
  match d.integers.find? isLong with
  | none => read (write style d) = .ok d
  | some n => ∃ place, read (write style d) = .error ⟨.longInteger (digitCount n), place⟩
  := by
  have hread := isRead_of_isWritable hstyle hd 0 (2 * (writeAt style 0 d).length + 1) []
    Ends.nil (by omega)
  obtain ⟨c, cs, hcs, hblank, -, hmark⟩ := exists_writeAt style 0 d
  have hskip : skip (writeAt style 0 d) = writeAt style 0 d := by
    rw [hcs]
    apply skip_cons hblank cs
  have hhead : (writeAt style 0 d).head? ≠ some '\uFEFF' := by
    simpa [hcs] using hmark
  rw [List.append_nil] at hread
  unfold Reads at hread
  simp only [read, write, String.toList_ofList, readChars, if_neg hhead, hskip]
  split at hread
  · rw [hread]
    rfl
  · obtain ⟨place, hplace⟩ := hread
    exact ⟨place, by rw [hplace]⟩

end Json

end Lineage
