import Lineage.Proofs.JsonTokens

/-!
# The grammar of JSON

`Phrase` gives the rules of JSON texts: which texts begin with a value, with the items of a list or
with the members of a record, what these are, and what is left of the text after them. A text is
read as a value exactly if it holds a phrase for it and nothing else but blanks
(`readChars_eq_ok_iff`), so the fuel of the reading does not matter.

What a phrase stands for does not depend on what follows it. So a value may be read within a larger
text: as the only member of a record, for instance (`readChars_member`).
-/

namespace Lineage.Json

/-! ### Blanks -/

theorem length_skip_le (cs : List Char) : (skip cs).length ≤ cs.length :=
  List.length_dropWhile_le isBlank cs

theorem length_lt_of_skip {cs rest : List Char} {c : Char} (h : skip cs = c :: rest) :
  rest.length < cs.length
  := by
  have hle := length_skip_le cs
  rwa [h, List.length_cons, Nat.succ_le_iff] at hle

/-- Blanks are skipped no further than to what is not blank. -/
theorem skip_append {cs : List Char} (h : skip cs ≠ []) (t : List Char) :
  skip (cs ++ t) = skip cs ++ t
  := by
  rw [skip, List.dropWhile_append, if_neg (by simpa [skip] using h)]
  rfl

theorem skip_append_cons {cs rest : List Char} {c : Char} (h : skip cs = c :: rest)
    (t : List Char) :
  skip (cs ++ t) = c :: (rest ++ t)
  := by
  rw [skip_append (by simp [h]), h, List.cons_append]

theorem skip_append_of_skip_eq_nil {cs : List Char} (h : skip cs = []) (t : List Char) :
  skip (cs ++ t) = skip t
  := by
  rw [skip, List.dropWhile_append, if_pos (by simpa [skip] using h)]
  rfl

/-- A number ends before blanks, whatever comes after them. -/
theorem ends_of_skip {rest : List Char} (h : Ends (skip rest)) : Ends rest := by
  cases rest with
  | nil => exact Ends.nil
  | cons c cs =>
    cases hc : isBlank c with
    | true =>
      apply Ends.cons _ cs
      simp only [isBlank, Bool.or_eq_true, beq_iff_eq, or_assoc] at hc
      rcases hc with rfl | rfl | rfl | rfl <;> decide
    | false => rwa [skip_cons hc] at h

theorem ends_of_skip_eq_cons {rest cs : List Char} {c : Char} (h : skip rest = c :: cs)
    (hc : c.isDigit = false ∧ c ≠ '.' ∧ c ≠ 'e' ∧ c ≠ 'E') :
  Ends rest
  := by
  apply ends_of_skip
  rw [h]
  apply Ends.cons hc

theorem ends_of_skip_eq_nil {rest : List Char} (h : skip rest = []) : Ends rest := by
  apply ends_of_skip
  rw [h]
  apply Ends.nil

/-! ### Rules -/

/-- The kinds of phrases. -/
inductive PhraseKind where
  | value
  /-- Items of a list, with the bracket that closes it. -/
  | items
  /-- Members of a record, with the brace that closes it. -/
  | members

/-- What phrases of a kind stand for. -/
@[reducible] def PhraseKind.Meaning : PhraseKind → Type
  | value => Data
  | items => List Data
  | members => List (String × Data)

/-- The rules of JSON: a text begins with a phrase of a kind, which stands for something, and goes
on with its rest. -/
inductive Phrase : (kind : PhraseKind) → List Char → kind.Meaning → List Char → Prop where
  | token {w rest : List Char} {d : Data} (hw : IsToken w d) (hrest : Ends rest) :
    Phrase .value (w ++ rest) d rest
  | emptyList {cs rest : List Char} (hend : skip cs = ']' :: rest) :
    Phrase .value ('[' :: cs) (Data.list []) rest
  | list {cs rest : List Char} {ds : List Data} (hitems : Phrase .items (skip cs) ds rest) :
    Phrase .value ('[' :: cs) (Data.list ds) rest
  | emptyRecord {cs rest : List Char} (hend : skip cs = '\x7d' :: rest) :
    Phrase .value ('\x7b' :: cs) (Data.record []) rest
  | record {cs rest : List Char} {ms : List (String × Data)}
    (hmembers : Phrase .members (skip cs) ms rest) :
    Phrase .value ('\x7b' :: cs) (Data.record ms) rest
  | lastItem {cs more rest : List Char} {d : Data} (hvalue : Phrase .value cs d more)
    (hend : skip more = ']' :: rest) :
    Phrase .items cs [d] rest
  | nextItem {cs more after rest : List Char} {d : Data} {ds : List Data}
    (hvalue : Phrase .value cs d more) (hcomma : skip more = ',' :: after)
    (hnext : Phrase .items (skip after) ds rest) :
    Phrase .items cs (d :: ds) rest
  | lastMember {w colon after more rest : List Char} {letters : List Letter} {d : Data}
    (hname : IsQuoted w letters) (hcolon : skip colon = ':' :: after)
    (hvalue : Phrase .value (skip after) d more) (hend : skip more = '\x7d' :: rest) :
    Phrase .members ('"' :: (w ++ colon)) [(textOf letters, d)] rest
  | nextMember {w colon after more after' rest : List Char} {letters : List Letter} {d : Data}
    {ms : List (String × Data)} (hname : IsQuoted w letters) (hcolon : skip colon = ':' :: after)
    (hvalue : Phrase .value (skip after) d more) (hcomma : skip more = ',' :: after')
    (hnext : Phrase .members (skip after') ms rest) :
    Phrase .members ('"' :: (w ++ colon)) ((textOf letters, d) :: ms) rest

/-! ### What is read is a phrase -/

section Soundness

variable {fuel : Nat} {cs rest : List Char}

theorem phrase_of_value
    (hitems : ∀ {cs ds rest}, items fuel cs = .ok (ds, rest) → Phrase .items cs ds rest)
    (hmembers : ∀ {cs ms rest}, members fuel cs = .ok (ms, rest) → Phrase .members cs ms rest)
    {d : Data} (h : value (fuel + 1) cs = .ok (d, rest)) (hrest : Ends rest) :
  Phrase .value cs d rest
  := by
  by_cases hlist : ∃ more, cs = '[' :: more
  · obtain ⟨more, rfl⟩ := hlist
    rw [value] at h
    split at h
    · next hend =>
      cases h
      exact .emptyList hend
    · split at h
      · next hread =>
        cases h
        exact .list (hitems hread)
      · cases h
  by_cases hrecord : ∃ more, cs = '\x7b' :: more
  · obtain ⟨more, rfl⟩ := hrecord
    rw [value] at h
    split at h
    · next hend =>
      cases h
      exact .emptyRecord hend
    · split at h
      · next hread =>
        cases h
        exact .record (hmembers hread)
      · cases h
  obtain ⟨w, rfl, hw⟩ := exists_isToken (fun more hcs => hlist ⟨more, hcs⟩)
    (fun more hcs => hrecord ⟨more, hcs⟩) h
  exact .token hw hrest

variable (hvalue : ∀ {cs d rest}, value fuel cs = .ok (d, rest) → Ends rest →
  Phrase .value cs d rest)

include hvalue

theorem phrase_of_items
    (hitems : ∀ {cs ds rest}, items fuel cs = .ok (ds, rest) → Phrase .items cs ds rest)
    {ds : List Data} (h : items (fuel + 1) cs = .ok (ds, rest)) :
  Phrase .items cs ds rest
  := by
  rw [items] at h
  split at h
  · cases h
  · next hread =>
    split at h
    · next hend =>
      cases h
      exact .lastItem (hvalue hread (ends_of_skip_eq_cons hend (by decide))) hend
    · next hcomma =>
      obtain ⟨ds, hnext, rfl⟩ := put_eq_ok_iff.mp h
      exact .nextItem (hvalue hread (ends_of_skip_eq_cons hcomma (by decide))) hcomma
        (hitems hnext)
    · cases h

theorem phrase_of_members
    (hmembers : ∀ {cs ms rest}, members fuel cs = .ok (ms, rest) → Phrase .members cs ms rest)
    {ms : List (String × Data)} (h : members (fuel + 1) cs = .ok (ms, rest)) :
  Phrase .members cs ms rest
  := by
  unfold members at h
  split at h
  · split at h
    · cases h
    next hquoted =>
    obtain ⟨w, rfl, hname⟩ := exists_isQuoted hquoted
    split at h
    · next hcolon =>
      split at h
      · cases h
      next hread =>
      split at h
      · next hend =>
        cases h
        exact .lastMember hname hcolon (hvalue hread (ends_of_skip_eq_cons hend (by decide))) hend
      · next hcomma =>
        obtain ⟨ms, hnext, rfl⟩ := put_eq_ok_iff.mp h
        exact .nextMember hname hcolon (hvalue hread (ends_of_skip_eq_cons hcomma (by decide)))
          hcomma (hmembers hnext)
      · cases h
    · cases h
  · cases h

end Soundness

/-- What is read is a phrase. Whether a value is a number to its end is told by what follows. -/
theorem phrase_of_read (fuel : Nat) :
  (∀ {cs d rest}, value fuel cs = .ok (d, rest) → Ends rest → Phrase .value cs d rest)
    ∧ (∀ {cs ds rest}, items fuel cs = .ok (ds, rest) → Phrase .items cs ds rest)
    ∧ ∀ {cs ms rest}, members fuel cs = .ok (ms, rest) → Phrase .members cs ms rest
  := by
  induction fuel with
  | zero => exact ⟨by simp [value], by simp [items], by simp [members]⟩
  | succ fuel ih =>
    obtain ⟨hvalue, hitems, hmembers⟩ := ih
    exact ⟨phrase_of_value hitems hmembers, phrase_of_items hvalue hitems,
      phrase_of_members hvalue hmembers⟩

/-! ### A phrase is read -/

section Steps

variable {fuel : Nat} {cs more after rest w colon : List Char} {d : Data} {ds : List Data}
  {ms : List (String × Data)} {letters : List Letter}

theorem value_emptyList (h : skip cs = ']' :: rest) :
  value (fuel + 1) ('[' :: cs) = .ok (.list [], rest)
  := by
  simp only [value, h]

theorem value_items (h : items fuel (skip cs) = .ok (ds, rest))
    (hne : ∀ more, skip cs ≠ ']' :: more) :
  value (fuel + 1) ('[' :: cs) = .ok (.list ds, rest)
  := by
  rw [value_list rfl hne, h]

theorem value_emptyRecord (h : skip cs = '\x7d' :: rest) :
  value (fuel + 1) ('\x7b' :: cs) = .ok (.record [], rest)
  := by
  simp only [value, h]

theorem value_members (h : members fuel (skip cs) = .ok (ms, rest))
    (hne : ∀ more, skip cs ≠ '\x7d' :: more) :
  value (fuel + 1) ('\x7b' :: cs) = .ok (.record ms, rest)
  := by
  rw [value_record rfl hne, h]

theorem items_last (hvalue : value fuel cs = .ok (d, more)) (hend : skip more = ']' :: rest) :
  items (fuel + 1) cs = .ok ([d], rest)
  := by
  simp only [items, hvalue, hend]

theorem items_next (hvalue : value fuel cs = .ok (d, more)) (hcomma : skip more = ',' :: after)
    (hnext : items fuel (skip after) = .ok (ds, rest)) :
  items (fuel + 1) cs = .ok (d :: ds, rest)
  := by
  simp only [items, hvalue, hcomma, hnext, put]

theorem members_last (hname : IsQuoted w letters) (hcolon : skip colon = ':' :: after)
    (hvalue : value fuel (skip after) = .ok (d, more)) (hend : skip more = '\x7d' :: rest) :
  members (fuel + 1) ('"' :: (w ++ colon)) = .ok ([(textOf letters, d)], rest)
  := by
  simp only [members, hname.textBody_append, hcolon, hvalue, hend]

theorem members_next {after' : List Char} (hname : IsQuoted w letters)
    (hcolon : skip colon = ':' :: after) (hvalue : value fuel (skip after) = .ok (d, more))
    (hcomma : skip more = ',' :: after') (hnext : members fuel (skip after') = .ok (ms, rest)) :
  members (fuel + 1) ('"' :: (w ++ colon)) = .ok ((textOf letters, d) :: ms, rest)
  := by
  simp only [members, hname.textBody_append, hcolon, hvalue, hcomma, hnext, put]

end Steps

/-- How phrases of a kind are read. -/
def PhraseKind.read :
    (kind : PhraseKind) → Nat → List Char → Except Fault (kind.Meaning × List Char)
  | value => Json.value
  | items => Json.items
  | members => Json.members

/-- The fuel for phrases of a kind besides that for the characters. -/
def PhraseKind.reserve : PhraseKind → Nat
  | value => 1
  | items => 2
  | members => 2

theorem PhraseKind.exists_fuel {kind : PhraseKind} {n fuel : Nat}
    (h : 2 * n + kind.reserve ≤ fuel) :
  ∃ k, fuel = k + 1
  := by
  apply Nat.exists_eq_add_one.mpr
  cases kind <;> simp only [reserve] at h <;> omega

namespace Phrase

variable {kind : PhraseKind} {cs rest : List Char} {a : kind.Meaning}

theorem length_lt (h : Phrase kind cs a rest) : rest.length < cs.length := by
  induction h with
  | @token w rest d hw hrest =>
    have hlength := List.length_pos_iff.mpr hw.ne_nil
    rw [List.length_append]
    omega
  | @emptyList cs rest hend | @emptyRecord cs rest hend =>
    have hlength := length_lt_of_skip hend
    rw [List.length_cons]
    omega
  | @list cs rest ds hitems ih | @record cs rest ms hmembers ih =>
    have hlength := length_skip_le cs
    rw [List.length_cons]
    omega
  | lastItem hvalue hend ih =>
    have hlength := length_lt_of_skip hend
    omega
  | @nextItem cs more after rest d ds hvalue hcomma hnext ihvalue ihnext =>
    have hlength := length_lt_of_skip hcomma
    have hafter := length_skip_le after
    omega
  | @lastMember w colon after more rest letters d hname hcolon hvalue hend ih =>
    have hlength := length_lt_of_skip hcolon
    have hafter := length_skip_le after
    have hmore := length_lt_of_skip hend
    rw [List.length_cons, List.length_append]
    omega
  | @nextMember w colon after more after' rest letters d ms hname hcolon hvalue hcomma hnext
      ihvalue ihnext =>
    have hlength := length_lt_of_skip hcolon
    have hafter := length_skip_le after
    have hmore := length_lt_of_skip hcomma
    have hafter' := length_skip_le after'
    rw [List.length_cons, List.length_append]
    omega

/-- No phrase begins with the end of a list or a record. -/
theorem ne_closing (h : Phrase kind cs a rest) (more : List Char) :
  cs ≠ ']' :: more ∧ cs ≠ '\x7d' :: more
  := by
  induction h with
  | token hw hrest =>
    have hread := hw.value_append 0 _ hrest
    constructor
    · intro heq
      rw [heq] at hread
      cases hread
    · intro heq
      rw [heq] at hread
      cases hread
  | lastItem hvalue hend ih => exact ih
  | nextItem hvalue hcomma hnext ih => exact ih
  | _ => simp

/-- A phrase is read if there is fuel enough for the text. -/
theorem read_eq (h : Phrase kind cs a rest) {fuel : Nat}
    (hfuel : 2 * cs.length + kind.reserve ≤ fuel) :
  kind.read fuel cs = .ok (a, rest)
  := by
  -- every rule takes one step of the reading, on what is left of the text
  induction h generalizing fuel with
  | token hw hrest =>
    obtain ⟨fuel, rfl⟩ := PhraseKind.exists_fuel hfuel
    apply hw.value_append fuel _ hrest
  | emptyList hend =>
    obtain ⟨fuel, rfl⟩ := PhraseKind.exists_fuel hfuel
    apply value_emptyList hend
  | @list cs rest ds hitems ih =>
    obtain ⟨fuel, rfl⟩ := PhraseKind.exists_fuel hfuel
    have hskip := length_skip_le cs
    simp only [PhraseKind.reserve, List.length_cons] at hfuel ih
    apply value_items (ih (by omega)) fun more => (hitems.ne_closing more).1
  | emptyRecord hend =>
    obtain ⟨fuel, rfl⟩ := PhraseKind.exists_fuel hfuel
    apply value_emptyRecord hend
  | @record cs rest ms hmembers ih =>
    obtain ⟨fuel, rfl⟩ := PhraseKind.exists_fuel hfuel
    have hskip := length_skip_le cs
    simp only [PhraseKind.reserve, List.length_cons] at hfuel ih
    apply value_members (ih (by omega)) fun more => (hmembers.ne_closing more).2
  | lastItem hvalue hend ih =>
    obtain ⟨fuel, rfl⟩ := PhraseKind.exists_fuel hfuel
    simp only [PhraseKind.reserve] at hfuel ih
    apply items_last (ih (by omega)) hend
  | @nextItem cs more after rest d ds hvalue hcomma hnext ihvalue ihnext =>
    obtain ⟨fuel, rfl⟩ := PhraseKind.exists_fuel hfuel
    have hvalue' := hvalue.length_lt
    have hmore := length_lt_of_skip hcomma
    have hafter := length_skip_le after
    simp only [PhraseKind.reserve] at hfuel ihvalue ihnext
    apply items_next (ihvalue (by omega)) hcomma (ihnext (by omega))
  | @lastMember w colon after more rest letters d hname hcolon hvalue hend ih =>
    obtain ⟨fuel, rfl⟩ := PhraseKind.exists_fuel hfuel
    have hcolon' := length_lt_of_skip hcolon
    have hafter := length_skip_le after
    simp only [PhraseKind.reserve, List.length_cons, List.length_append] at hfuel ih
    apply members_last hname hcolon (ih (by omega)) hend
  | @nextMember w colon after more after' rest letters d ms hname hcolon hvalue hcomma hnext
      ihvalue ihnext =>
    obtain ⟨fuel, rfl⟩ := PhraseKind.exists_fuel hfuel
    have hvalue' := hvalue.length_lt
    have hcolon' := length_lt_of_skip hcolon
    have hafter := length_skip_le after
    have hmore := length_lt_of_skip hcomma
    have hafter' := length_skip_le after'
    simp only [PhraseKind.reserve, List.length_cons, List.length_append] at hfuel ihvalue ihnext
    apply members_next hname hcolon (ihvalue (by omega)) hcomma (ihnext (by omega))

end Phrase

/-- A text is read as a value exactly if it holds a phrase for the value, and else only blanks. -/
theorem readChars_eq_ok_iff {cs : List Char} {d : Data} :
  readChars cs = .ok d
    ↔ cs.head? ≠ some '\uFEFF' ∧ ∃ rest, Phrase .value (skip cs) d rest ∧ skip rest = []
  := by
  unfold readChars
  split
  · next hmark => simp [hmark]
  · next hmark =>
    constructor
    · intro h
      split at h
      · cases h
      · next hread =>
        split at h
        · next hend =>
          cases h
          exact ⟨hmark, _, (phrase_of_read _).1 hread (ends_of_skip_eq_nil hend), hend⟩
        · cases h
    · rintro ⟨-, rest, hphrase, hend⟩
      have hfuel : 2 * (skip cs).length + PhraseKind.value.reserve ≤ 2 * cs.length + 1 := by
        have hskip := length_skip_le cs
        rw [PhraseKind.reserve]
        omega
      have hread : value (2 * cs.length + 1) (skip cs) = .ok (d, rest) := hphrase.read_eq hfuel
      simp only [hread, hend]

/-! ### What follows -/

namespace Phrase

variable {kind : PhraseKind} {cs rest : List Char} {a : kind.Meaning}

theorem skip_ne_nil (h : Phrase kind (skip cs) a rest) : skip cs ≠ [] := by
  intro hnil
  have hlength := h.length_lt
  simp [hnil] at hlength

/-- A phrase stands for the same if there is more after its rest, as long as that does not make a
number go on. -/
theorem append (h : Phrase kind cs a rest) {t : List Char} (ht : Ends (rest ++ t)) :
  Phrase kind (cs ++ t) a (rest ++ t)
  := by
  induction h with
  | @token w rest d hw hrest =>
    rw [List.append_assoc]
    exact .token hw ht
  | emptyList hend => exact .emptyList (skip_append_cons hend t)
  | list hitems ih =>
    rw [← skip_append hitems.skip_ne_nil] at ih
    exact .list (ih ht)
  | emptyRecord hend => exact .emptyRecord (skip_append_cons hend t)
  | record hmembers ih =>
    rw [← skip_append hmembers.skip_ne_nil] at ih
    exact .record (ih ht)
  | lastItem hvalue hend ih =>
    have hend' := skip_append_cons hend t
    exact .lastItem (ih (ends_of_skip_eq_cons hend' (by decide))) hend'
  | nextItem hvalue hcomma hnext ihvalue ihnext =>
    have hcomma' := skip_append_cons hcomma t
    rw [← skip_append hnext.skip_ne_nil] at ihnext
    exact .nextItem (ihvalue (ends_of_skip_eq_cons hcomma' (by decide))) hcomma' (ihnext ht)
  | lastMember hname hcolon hvalue hend ih =>
    have hend' := skip_append_cons hend t
    rw [← skip_append hvalue.skip_ne_nil] at ih
    rw [List.cons_append, List.append_assoc]
    exact .lastMember hname (skip_append_cons hcolon t)
      (ih (ends_of_skip_eq_cons hend' (by decide))) hend'
  | nextMember hname hcolon hvalue hcomma hnext ihvalue ihnext =>
    have hcomma' := skip_append_cons hcomma t
    rw [← skip_append hvalue.skip_ne_nil] at ihvalue
    rw [← skip_append hnext.skip_ne_nil] at ihnext
    rw [List.cons_append, List.append_assoc]
    exact .nextMember hname (skip_append_cons hcolon t)
      (ihvalue (ends_of_skip_eq_cons hcomma' (by decide))) hcomma' (ihnext ht)

end Phrase

/-- A text that holds a value holds it as well where it stands as the only member of a record. -/
theorem readChars_member {name cs : List Char} {d : Data}
    (hname : ∀ c ∈ name, IsPlain c) (h : readChars cs = .ok d) :
  readChars ('\x7b' :: '"' :: (name ++ '"' :: ':' :: (cs ++ ['\x7d'])))
    = .ok (.record [(String.ofList name, d)])
  := by
  obtain ⟨-, rest, hphrase, hrest⟩ := readChars_eq_ok_iff.mp h
  have hend : skip (rest ++ ['\x7d']) = ['\x7d'] := by
    rw [skip_append_of_skip_eq_nil hrest, skip_cons rfl]
  have hvalue : Phrase .value (skip (cs ++ ['\x7d'])) d (rest ++ ['\x7d']) := by
    rw [skip_append hphrase.skip_ne_nil]
    apply hphrase.append (ends_of_skip_eq_cons hend (by decide))
  have hmember := Phrase.lastMember (isQuoted_of_plain hname) (skip_cons rfl _) hvalue hend
  rw [textOf_plain, List.append_assoc] at hmember
  refine readChars_eq_ok_iff.mpr ⟨by simp, [], ?_, rfl⟩
  rw [skip_cons rfl]
  apply Phrase.record
  rw [skip_cons rfl]
  exact hmember

end Lineage.Json
