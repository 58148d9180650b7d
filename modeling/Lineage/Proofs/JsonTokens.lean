import Lineage.Json.Reader
import Mathlib.Data.List.TakeDrop
import Mathlib.Data.List.TakeWhile
import Mathlib.Tactic.Common

/-!
# The tokens of JSON

Texts in quotes, words and numbers are the tokens of a JSON text. Each of them is read from its own
characters, and these are characters of one line. What follows does not matter, as long as it does
not go on with a number: `IsToken` says that of some characters and a value, and whatever is read
that is neither a list nor a record is read from a token (`exists_isToken`).
-/

namespace Lineage.Json

theorem skip_cons {c : Char} (hc : isBlank c = false) (cs : List Char) :
  skip (c :: cs) = c :: cs
  := by
  simp [skip, hc]

theorem put_eq_ok_iff {α : Type} {a : α} {outcome : Except Fault (List α × List Char)}
    {as : List α} {rest : List Char} :
  put a outcome = .ok (as, rest) ↔ ∃ as', outcome = .ok (as', rest) ∧ as = a :: as'
  := by
  rcases outcome with fault | ⟨as', rest'⟩
  · simp [put]
  · simp only [put, Except.ok.injEq, Prod.mk.injEq]
    grind

/-! ### Lines -/

/-- Characters of one line. -/
def IsLine (w : List Char) : Prop :=
  ∀ c ∈ w, c ≠ '\r' ∧ c ≠ '\n'

namespace IsLine

variable {c : Char} {v w : List Char}

theorem nil : IsLine [] := by
  intro c hc
  cases hc

theorem cons (hc : c ≠ '\r' ∧ c ≠ '\n') (hw : IsLine w) : IsLine (c :: w) := by
  simpa [IsLine] using ⟨hc, hw⟩

theorem append (hv : IsLine v) (hw : IsLine w) : IsLine (v ++ w) := by
  intro c hc
  rcases List.mem_append.mp hc with hc | hc
  · apply hv c hc
  · apply hw c hc

end IsLine

/-! ### Texts -/

theorem textBody_letter {c d : Char} (h : letterEscape? d = some c) (hd : d ≠ 'u')
    (start more : List Char) :
  textBody start ('\\' :: d :: more) = put (.plain c) (textBody start more)
  := by
  simp [textBody, hd, h]

theorem isLine_of_code? {a b c d : Char} {n : Nat} (h : code? a b c d = some n) :
  IsLine [a, b, c, d]
  := by
  have hhex : ∀ {c : Char} {m : Nat}, hexValue? c = some m → c ≠ '\r' ∧ c ≠ '\n' := by
    intro c m hc
    constructor
    · rintro rfl
      cases hc
    · rintro rfl
      cases hc
  simp only [code?, bind, Option.bind_eq_some_iff] at h
  obtain ⟨_, ha, _, hb, _, hc, _, hd, -⟩ := h
  exact .cons (hhex ha) (.cons (hhex hb) (.cons (hhex hc) (.cons (hhex hd) .nil)))

/-- That some characters after an opening quote, up to and with the closing one, are read as some
letters. -/
structure IsQuoted (w : List Char) (letters : List Letter) : Prop where
  isLine : IsLine w
  ne_nil : w ≠ []
  textBody_append : ∀ start rest, textBody start (w ++ rest) = .ok (letters, rest)

/-- That a character stands for itself in a text in quotes. -/
def IsPlain (c : Char) : Prop :=
  c ≠ '"' ∧ c ≠ '\\' ∧ 0x20 ≤ c.toNat

theorem IsQuoted.closing : IsQuoted ['"'] [] :=
  ⟨.cons (by decide) .nil, by simp, fun _ _ => rfl⟩

theorem IsQuoted.plain {c : Char} {w : List Char} {letters : List Letter} (hc : IsPlain c)
    (hw : IsQuoted w letters) :
  IsQuoted (c :: w) (.plain c :: letters)
  := by
  obtain ⟨hquote, hslash, hcontrol⟩ := hc
  refine ⟨.cons ⟨?_, ?_⟩ hw.isLine, by simp, ?_⟩
  · rintro rfl
    exact absurd hcontrol (by decide)
  · rintro rfl
    exact absurd hcontrol (by decide)
  · intro start rest
    simp [textBody, hslash, hcontrol.not_gt, hw.textBody_append, put]

/-- A text in quotes is read from its own characters. -/
theorem exists_isQuoted {start cs rest : List Char} {letters : List Letter}
    (h : textBody start cs = .ok (letters, rest)) :
  ∃ w, cs = w ++ rest ∧ IsQuoted w letters
  := by
  -- only four of the cases of the definition give letters
  fun_induction textBody start cs generalizing letters with
  | case2 more =>
    cases h
    exact ⟨['"'], rfl, .closing⟩
  | case5 a b c d more n hcode hmore ih =>
    obtain ⟨letters, hletters, rfl⟩ := put_eq_ok_iff.mp h
    obtain ⟨w, rfl, hline, hne, hread⟩ := ih hletters
    refine ⟨'\\' :: 'u' :: ([a, b, c, d] ++ w), rfl, ?_, by simp, ?_⟩
    · exact .cons (by decide) (.cons (by decide) ((isLine_of_code? hcode).append hline))
    · intro start rest
      simp [textBody, hcode, hne, hread, put]
  | case8 c more hcode hne d hletter ih =>
    obtain ⟨letters, hletters, rfl⟩ := put_eq_ok_iff.mp h
    obtain ⟨w, rfl, hline, -, hread⟩ := ih hletters
    refine ⟨'\\' :: c :: w, rfl, .cons (by decide) (.cons ⟨?_, ?_⟩ hline), by simp, ?_⟩
    · rintro rfl
      cases hletter
    · rintro rfl
      cases hletter
    · intro start rest
      rw [List.cons_append, List.cons_append, textBody_letter hletter hne, hread]
      rfl
  | case11 c more hquote hslash hcode hescape hcontrol ih =>
    obtain ⟨letters, hletters, rfl⟩ := put_eq_ok_iff.mp h
    obtain ⟨w, rfl, hw⟩ := ih hletters
    have hc : c ≠ '\\' := by
      rintro rfl
      cases hmore : w ++ rest with
      | nil => apply hslash rfl hmore
      | cons c' cs' => apply hescape c' cs' rfl hmore
    exact ⟨c :: w, rfl, hw.plain ⟨hquote, hc, not_lt.mp hcontrol⟩⟩
  | _ => cases h

/-- A text of plain characters is quoted as it is. -/
theorem isQuoted_of_plain {cs : List Char} (h : ∀ c ∈ cs, IsPlain c) :
  IsQuoted (cs ++ ['"']) (cs.map .plain)
  := by
  induction cs with
  | nil => exact .closing
  | cons c cs ih =>
    obtain ⟨hc, hcs⟩ := List.forall_mem_cons.mp h
    apply (ih hcs).plain hc

theorem textOf_plain (cs : List Char) : textOf (cs.map .plain) = String.ofList cs := by
  have hassemble : assemble (cs.map .plain) = cs := by
    induction cs with
    | nil => rfl
    | cons c cs ih => rw [List.map_cons, assemble, ih]
  rw [textOf, hassemble]

/-! ### Digits -/

/-- What does not go on with digits. -/
def EndsDigits (rest : List Char) : Prop :=
  ∀ c ∈ rest.head?, c.isDigit = false

/-- What goes on neither with digits nor with a fraction. -/
def EndsFraction (rest : List Char) : Prop :=
  ∀ c ∈ rest.head?, c.isDigit = false ∧ c ≠ '.'

/-- What does not go on with a number. -/
def Ends (rest : List Char) : Prop :=
  ∀ c ∈ rest.head?, c.isDigit = false ∧ c ≠ '.' ∧ c ≠ 'e' ∧ c ≠ 'E'

theorem Ends.nil : Ends [] := by
  intro c hc
  cases hc

theorem Ends.cons {c : Char} (hc : c.isDigit = false ∧ c ≠ '.' ∧ c ≠ 'e' ∧ c ≠ 'E')
    (cs : List Char) :
  Ends (c :: cs)
  := by
  intro d hd
  obtain rfl : c = d := by simpa using hd
  apply hc

theorem Ends.endsDigits {rest : List Char} (h : Ends rest) : EndsDigits rest :=
  fun c hc => (h c hc).1

theorem Ends.endsFraction {rest : List Char} (h : Ends rest) : EndsFraction rest :=
  fun c hc => ⟨(h c hc).1, (h c hc).2.1⟩

theorem EndsFraction.endsDigits {rest : List Char} (h : EndsFraction rest) : EndsDigits rest :=
  fun c hc => (h c hc).1

theorem forall_head?_append {P : Char → Prop} {w rest : List Char} (hw : ∀ c ∈ w.head?, P c)
    (hrest : ∀ c ∈ rest.head?, P c) :
  ∀ c ∈ (w ++ rest).head?, P c
  := by
  cases w with
  | nil => exact hrest
  | cons c w => exact hw

theorem ne_of_isDigit {c d : Char} (hc : c.isDigit = true) (hd : d.isDigit = false) : c ≠ d := by
  rintro rfl
  simp [hc] at hd

theorem isLine_of_digits {ds : List Char} (h : ∀ c ∈ ds, c.isDigit = true) : IsLine ds :=
  fun c hc => ⟨ne_of_isDigit (h c hc) rfl, ne_of_isDigit (h c hc) rfl⟩

theorem span_digits {ds rest : List Char} (hds : ∀ c ∈ ds, c.isDigit = true)
    (hrest : EndsDigits rest) :
  (ds ++ rest).span Char.isDigit = (ds, rest)
  := by
  rw [List.span_eq_takeWhile_dropWhile, List.takeWhile_append_of_pos hds,
    List.dropWhile_append_of_pos hds]
  cases rest with
  | nil => simp
  | cons c cs => simp [hrest c rfl]

theorem of_span_digits {cs ds rest : List Char} (h : cs.span Char.isDigit = (ds, rest)) :
  cs = ds ++ rest ∧ ∀ c ∈ ds, c.isDigit = true
  := by
  rw [List.span_eq_takeWhile_dropWhile, Prod.mk.injEq] at h
  obtain ⟨rfl, rfl⟩ := h
  exact ⟨List.takeWhile_append_dropWhile.symm, fun c hc => List.mem_takeWhile_imp hc⟩

/-! ### The parts of a number -/

/-- That a part of a number is read from some characters, whatever follows that ends it. -/
structure IsScanned {α : Type} (scan : List Char → α × List Char) (ends : List Char → Prop)
    (w : List Char) (a : α) : Prop where
  isLine : IsLine w
  scan_append : ∀ rest, ends rest → scan (w ++ rest) = (a, rest)

/-- The whole part of a number is read from its digits. -/
theorem wholePart_eq {cs ds rest : List Char} (h : wholePart cs = (ds, rest)) :
  cs = ds ++ rest ∧ (∀ c ∈ ds, c.isDigit = true) ∧ IsScanned wholePart EndsDigits ds ds
  := by
  unfold wholePart at h
  split at h
  · cases h
    exact ⟨rfl, by simp, .cons (by decide) .nil, fun rest _ => rfl⟩
  · next hzero =>
    obtain ⟨rfl, hds⟩ := of_span_digits h
    refine ⟨rfl, hds, isLine_of_digits hds, ?_⟩
    intro rest' hrest'
    rw [← span_digits hds hrest']
    unfold wholePart
    split
    · next more hmore =>
      cases ds with
      | nil =>
        have hdigit := hrest' '0' (by simp_all)
        cases hdigit
      | cons c ds =>
        obtain ⟨rfl, -⟩ := List.cons.inj hmore
        cases hzero _ rfl
    · rfl

theorem fraction_of_endsFraction {rest : List Char} (hrest : EndsFraction rest) :
  fraction rest = ([], rest)
  := by
  cases rest with
  | nil => rfl
  | cons c cs => simp [fraction, (hrest c rfl).2]

/-- A fraction is read from a point and digits, or from nothing. -/
theorem exists_fraction {cs ds rest : List Char} (h : fraction cs = (ds, rest)) :
  ∃ w, cs = w ++ rest ∧ (∀ c ∈ w.head?, c = '.') ∧ IsScanned fraction EndsFraction w ds
  := by
  have hnone : ∃ w, cs = w ++ cs ∧ (∀ c ∈ w.head?, c = '.')
      ∧ IsScanned fraction EndsFraction w [] :=
    ⟨[], rfl, by simp, .nil, fun rest hrest => fraction_of_endsFraction hrest⟩
  unfold fraction at h
  split at h
  · split at h
    · cases h
      exact hnone
    · next ds' more hne hspan =>
      cases h
      obtain ⟨rfl, hds⟩ := of_span_digits hspan
      refine ⟨'.' :: ds, rfl, by simp, .cons (by decide) (isLine_of_digits hds), ?_⟩
      intro rest hrest
      have hspan := span_digits hds hrest.endsDigits
      obtain ⟨d, ds, rfl⟩ := List.exists_cons_of_ne_nil hne
      rw [List.cons_append] at hspan
      simp [fraction, hspan, -List.span_eq_takeWhile_dropWhile]
  · cases h
    exact hnone

theorem exponent_of_ends {rest : List Char} (hrest : Ends rest) : exponent rest = (none, rest) := by
  cases rest with
  | nil => rfl
  | cons c cs => simp [exponent, (hrest c rfl).2.2.1, (hrest c rfl).2.2.2]

/-- The signs that an exponent may have, and whether they make it negative. -/
def exponentSigns : List (List Char × Bool) :=
  [([], false), (['+'], false), (['-'], true)]

theorem exponent_signed {e : Char} (he : e = 'e' ∨ e = 'E') {sign : List Char} {negative : Bool}
    (hsign : (sign, negative) ∈ exponentSigns) {ds rest : List Char} (hne : ds ≠ [])
    (hds : ∀ c ∈ ds, c.isDigit = true) (hrest : EndsDigits rest) :
  exponent (e :: (sign ++ (ds ++ rest)))
    = (some (if negative then -(ofDigits ds : Int) else ofDigits ds), rest)
  := by
  have hspan := span_digits hds hrest
  obtain ⟨d, ds, rfl⟩ := List.exists_cons_of_ne_nil hne
  have hd : ∀ c : Char, c.isDigit = false → d ≠ c :=
    fun c hc => ne_of_isDigit (hds d List.mem_cons_self) hc
  rw [List.cons_append] at hspan ⊢
  simp only [exponentSigns, List.mem_cons, Prod.mk.injEq, List.not_mem_nil, or_false] at hsign
  obtain ⟨rfl, rfl⟩ | ⟨rfl, rfl⟩ | ⟨rfl, rfl⟩ := hsign
  · simp [exponent, he, hspan, hd, -List.span_eq_takeWhile_dropWhile]
  · simp [exponent, he, hspan, -List.span_eq_takeWhile_dropWhile]
  · simp [exponent, he, hspan, -List.span_eq_takeWhile_dropWhile]

/-- An exponent is read from a letter, perhaps a sign, and digits, or from nothing. -/
theorem exists_exponent {cs rest : List Char} {power : Option Int}
    (h : exponent cs = (power, rest)) :
  ∃ w, cs = w ++ rest ∧ (∀ c ∈ w.head?, c = 'e' ∨ c = 'E') ∧ IsScanned exponent Ends w power
  := by
  have hnone : ∃ w, cs = w ++ cs ∧ (∀ c ∈ w.head?, c = 'e' ∨ c = 'E')
      ∧ IsScanned exponent Ends w none :=
    ⟨[], rfl, by simp, .nil, fun rest hrest => exponent_of_ends hrest⟩
  unfold exponent at h
  split at h
  · next e more =>
    split at h
    · next he =>
      split at h
      next negative signed hsigned =>
      have hsign : ∃ sign, (sign, negative) ∈ exponentSigns ∧ more = sign ++ signed := by
        split at hsigned <;> cases hsigned
        · exact ⟨['-'], by decide, rfl⟩
        · exact ⟨['+'], by decide, rfl⟩
        · exact ⟨[], by decide, rfl⟩
      obtain ⟨sign, hsign, rfl⟩ := hsign
      split at h
      · cases h
        exact hnone
      · next ds more hne hspan =>
        cases h
        obtain ⟨rfl, hds⟩ := of_span_digits hspan
        refine ⟨e :: (sign ++ ds), by simp, by simpa using he, ?_, ?_⟩
        · have hsigns : ∀ s ∈ exponentSigns, ∀ c ∈ s.1, c ≠ '\r' ∧ c ≠ '\n' := by
            simp [exponentSigns]
          have hletter : e ≠ '\r' ∧ e ≠ '\n' := by
            rcases he with rfl | rfl <;> decide
          exact .cons hletter (IsLine.append (hsigns _ hsign) (isLine_of_digits hds))
        · intro rest hrest
          rw [List.cons_append, List.append_assoc,
            exponent_signed he hsign hne hds hrest.endsDigits]
    · cases h
      exact hnone
  · cases h
    exact hnone

/-! ### Numbers -/

/-- The sign of a number. -/
def sign (negative : Bool) : List Char :=
  if negative then ['-'] else []

theorem exists_sign (cs : List Char) :
  ∃ negative unsigned, cs = sign negative ++ unsigned
    ∧ (negative = false → ∀ more, unsigned ≠ '-' :: more)
  := by
  by_cases hcs : ∃ more, cs = '-' :: more
  · obtain ⟨more, rfl⟩ := hcs
    exact ⟨true, more, rfl, by simp⟩
  · exact ⟨false, cs, rfl, fun _ more hmore => hcs ⟨more, hmore⟩⟩

/-- What a number is made of its parts. -/
theorem number_of_parts {negative : Bool} {unsigned whole part rest₁ rest₂ rest : List Char}
    {power : Option Int} (hunsigned : negative = false → ∀ more, unsigned ≠ '-' :: more)
    (hwhole : wholePart unsigned = (whole, rest₁)) (hfraction : fraction rest₁ = (part, rest₂))
    (hexponent : exponent rest₂ = (power, rest)) :
  number (sign negative ++ unsigned)
    = if whole = [] then .error ⟨.value, sign negative ++ unsigned⟩
      else if part.isEmpty ∧ power.isNone then
        if whole.length > digitLimit then
          .error ⟨.longInteger whole.length, sign negative ++ unsigned⟩
        else .ok (.int (if negative then -(ofDigits whole : Int) else ofDigits whole), rest)
      else
        .ok (.real (.ofDecimal negative (ofDigits (whole ++ part)) (power.getD 0 - part.length)),
          rest)
  := by
  cases whole with
  | nil =>
    cases negative with
    | true => simp [number, sign, hwhole]
    | false => simp [number, sign, hwhole, hunsigned]
  | cons c ds =>
    cases negative with
    | true => simp [number, sign, hwhole, hfraction, hexponent]
    | false => simp [number, sign, hwhole, hfraction, hexponent, hunsigned]

/-- A number is read from its own characters, the first of which is a digit, or a sign before a
digit. -/
theorem exists_number {cs rest : List Char} {d : Data} (h : number cs = .ok (d, rest)) :
  ∃ w, cs = w ++ rest ∧ IsLine w
    ∧ (∃ c ds, c.isDigit = true ∧ (w = c :: ds ∨ w = '-' :: c :: ds))
    ∧ ∀ rest, Ends rest → number (w ++ rest) = .ok (d, rest)
  := by
  obtain ⟨negative, unsigned, rfl, hunsigned⟩ := exists_sign cs
  obtain ⟨whole, rest₁, hwhole⟩ : ∃ whole rest₁, wholePart unsigned = (whole, rest₁) := ⟨_, _, rfl⟩
  obtain ⟨part, rest₂, hfraction⟩ : ∃ part rest₂, fraction rest₁ = (part, rest₂) := ⟨_, _, rfl⟩
  obtain ⟨power, rest₃, hexponent⟩ : ∃ power rest₃, exponent rest₂ = (power, rest₃) := ⟨_, _, rfl⟩
  rw [number_of_parts hunsigned hwhole hfraction hexponent] at h
  obtain ⟨rfl, hdigits, hscan₁⟩ := wholePart_eq hwhole
  obtain ⟨w₂, rfl, hpoint, hscan₂⟩ := exists_fraction hfraction
  obtain ⟨w₃, rfl, hletter, hscan₃⟩ := exists_exponent hexponent
  have hne : whole ≠ [] := by
    rintro rfl
    cases h
  obtain rfl : rest₃ = rest := by
    split_ifs at h <;> cases h <;> rfl
  obtain ⟨c, ds, rfl⟩ := List.exists_cons_of_ne_nil hne
  have hc : c.isDigit = true := hdigits c List.mem_cons_self
  refine ⟨sign negative ++ (c :: ds ++ (w₂ ++ w₃)), by simp, ?_, ?_, ?_⟩
  · have hsign : IsLine (sign negative) := by
      cases negative with
      | true => exact .cons (by decide) .nil
      | false => exact .nil
    apply hsign.append (hscan₁.isLine.append (hscan₂.isLine.append hscan₃.isLine))
  · refine ⟨c, ds ++ (w₂ ++ w₃), hc, ?_⟩
    cases negative with
    | true => exact Or.inr rfl
    | false => exact Or.inl rfl
  · intro rest hrest
    -- each part ends where the next one begins, or where the number does
    have hrest₂ : EndsFraction (w₃ ++ rest) := by
      apply forall_head?_append _ hrest.endsFraction
      intro c hc
      rcases hletter c hc with rfl | rfl <;> decide
    have hrest₁ : EndsDigits (w₂ ++ (w₃ ++ rest)) := by
      apply forall_head?_append _ hrest₂.endsDigits
      intro c hc
      rw [hpoint c hc]
      rfl
    have hunsigned : negative = false → ∀ more, c :: ds ++ (w₂ ++ (w₃ ++ rest)) ≠ '-' :: more := by
      rintro - more hmore
      apply ne_of_isDigit hc (d := '-') rfl (List.cons.inj hmore).1
    have hnumber := number_of_parts hunsigned (hscan₁.scan_append _ hrest₁)
      (hscan₂.scan_append _ hrest₂) (hscan₃.scan_append _ hrest)
    simp only [List.append_assoc] at hnumber ⊢
    rw [hnumber]
    split_ifs at h ⊢ <;> cases h <;> rfl

/-- What begins with a digit, or with a sign and a digit, is neither a text, a list or a record nor
one of the words. -/
theorem value_of_digit (fuel : Nat) {c : Char} (hc : c.isDigit = true) {cs ds : List Char}
    (hcs : cs = c :: ds ∨ cs = '-' :: c :: ds) :
  value (fuel + 1) cs = number cs
  := by
  have hne : ∀ a : Char, a.isDigit = false → c ≠ a ∧ a ≠ c :=
    fun a ha => ⟨ne_of_isDigit hc ha, (ne_of_isDigit hc ha).symm⟩
  rcases hcs with rfl | rfl
  · simp [value, word?, words, hne]
  · simp [value, word?, words, hne]

/-! ### Tokens -/

/-- That some characters write a value that is neither a list nor a record: it is read from them,
whatever follows that does not go on with a number. -/
structure IsToken (w : List Char) (d : Data) : Prop where
  isLine : IsLine w
  value_append : ∀ fuel rest, Ends rest → value (fuel + 1) (w ++ rest) = .ok (d, rest)

theorem IsToken.ne_nil {w : List Char} {d : Data} (h : IsToken w d) : w ≠ [] := by
  rintro rfl
  cases h.value_append 0 [] Ends.nil

theorem IsQuoted.isToken {w : List Char} {letters : List Letter} (h : IsQuoted w letters) :
  IsToken ('"' :: w) (.text (textOf letters))
  := by
  refine ⟨.cons (by decide) h.isLine, ?_⟩
  intro fuel rest _
  rw [List.cons_append, value, h.textBody_append]

theorem isToken_of_mem_words {w : List Char} {d : Data} (h : (w, d) ∈ words) : IsToken w d := by
  have hline : ∀ w ∈ words.map Prod.fst, ∀ c ∈ w, c ≠ '\r' ∧ c ≠ '\n' := by
    simp [words]
  refine ⟨hline w (List.mem_map_of_mem h), ?_⟩
  intro fuel rest _
  simp only [words, List.mem_cons, Prod.mk.injEq, List.not_mem_nil, or_false] at h
  obtain ⟨rfl, rfl⟩ | ⟨rfl, rfl⟩ | ⟨rfl, rfl⟩ | ⟨rfl, rfl⟩ | ⟨rfl, rfl⟩ | ⟨rfl, rfl⟩ := h <;> rfl

theorem exists_word {cs rest : List Char} {d : Data} (h : word? cs = some (d, rest)) :
  ∃ w, (w, d) ∈ words ∧ cs = w ++ rest
  := by
  obtain ⟨⟨w, d'⟩, hw, hcs⟩ := List.exists_of_findSome?_eq_some h
  split at hcs
  · next hprefix =>
    cases hcs
    refine ⟨w, hw, ?_⟩
    apply (List.prefix_iff_eq_append.mp (List.isPrefixOf_iff_prefix.mp hprefix)).symm
  · cases hcs

/-- A value that is neither a list nor a record is read from a token. -/
theorem exists_isToken {fuel : Nat} {cs rest : List Char} {d : Data}
    (hlist : ∀ more, cs ≠ '[' :: more) (hrecord : ∀ more, cs ≠ '\x7b' :: more)
    (h : value (fuel + 1) cs = .ok (d, rest)) :
  ∃ w, cs = w ++ rest ∧ IsToken w d
  := by
  unfold value at h
  split at h
  · split at h
    · next hread =>
      cases h
      obtain ⟨w, rfl, hw⟩ := exists_isQuoted hread
      exact ⟨'"' :: w, rfl, hw.isToken⟩
    · cases h
  · next more => exact absurd rfl (hlist more)
  · next more => exact absurd rfl (hrecord more)
  · split at h
    · next hword =>
      cases h
      obtain ⟨w, hw, rfl⟩ := exists_word hword
      exact ⟨w, rfl, isToken_of_mem_words hw⟩
    · obtain ⟨w, rfl, hline, ⟨c, ds, hc, hw⟩, hread⟩ := exists_number h
      refine ⟨w, rfl, hline, ?_⟩
      intro fuel rest hrest
      have hsigned : w ++ rest = c :: (ds ++ rest) ∨ w ++ rest = '-' :: c :: (ds ++ rest) :=
        hw.imp (fun hw => by rw [hw, List.cons_append]) (fun hw => by rw [hw]; rfl)
      rw [← hread rest hrest, value_of_digit fuel hc hsigned]

/-! ### Lists and records -/

/-- A list that does not end at once has items. -/
theorem value_list {fuel : Nat} {cs more : List Char} (hskip : skip cs = more)
    (hmore : ∀ rest, more ≠ ']' :: rest) :
  value (fuel + 1) ('[' :: cs)
    = match items fuel more with
      | .ok (ds, rest) => .ok (.list ds, rest)
      | .error fault => .error fault
  := by
  rw [value, hskip]
  split
  · next rest => exact absurd rfl (hmore rest)
  · rfl

/-- A record that does not end at once has members. -/
theorem value_record {fuel : Nat} {cs more : List Char} (hskip : skip cs = more)
    (hmore : ∀ rest, more ≠ '\x7d' :: rest) :
  value (fuel + 1) ('\x7b' :: cs)
    = match members fuel more with
      | .ok (ms, rest) => .ok (.record ms, rest)
      | .error fault => .error fault
  := by
  rw [value, hskip]
  split
  · next rest => exact absurd rfl (hmore rest)
  · rfl

end Lineage.Json
