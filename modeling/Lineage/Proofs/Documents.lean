import Lineage.Diagram.Document
import Lineage.Document.Wholeness
import Lineage.Proofs.JsonRoundTrip
import Mathlib.Data.List.Induction
import Mathlib.Data.List.Nodup

/-!
# Documents without nulls

What is missing from a document is read like what is null in it, so a reader that gets a value
back from its document gets it back as well when the null members of all records are left out.
`Reader.Inverts` says that of a reader, and the lemmas on fields carry it from the values of a
record to the record.

Leaving out nulls keeps the integers of a document and leaves it one that can be written.
-/

namespace Lineage

namespace Data

/-! ### Leaving out nulls -/

/-- Whether a value is null. -/
def isNull : Data → Bool
  | null => true
  | _ => false

theorem isNull_withoutNulls (d : Data) : d.withoutNulls.isNull = d.isNull := by
  cases d <;> rfl

theorem itemsWithoutNulls_eq (ds : List Data) : itemsWithoutNulls ds = ds.map withoutNulls := by
  induction ds with
  | nil => rfl
  | cons d ds ih => rw [itemsWithoutNulls, ih, List.map_cons]

theorem membersWithoutNulls_eq (ms : Members) :
  membersWithoutNulls ms
    = (ms.filter fun m => !m.2.isNull).map fun m => (m.1, m.2.withoutNulls)
  := by
  induction ms with
  | nil => rfl
  | cons m ms ih =>
    obtain ⟨name, d⟩ := m
    cases d <;> simp [membersWithoutNulls, isNull, ih]

theorem nodup_names_membersWithoutNulls {ms : Members} (h : (ms.map Prod.fst).Nodup) :
  ((membersWithoutNulls ms).map Prod.fst).Nodup
  := by
  rw [membersWithoutNulls_eq, List.map_map]
  apply h.sublist (List.filter_sublist.map _)

/-! ### Members -/

theorem member?_concat (ms : Members) (m : String × Data) (name : String) :
  member? (ms ++ [m]) name = if m.1 = name then some m.2 else member? ms name
  := by
  simp [member?]

theorem member?_eq_none_iff {ms : Members} {name : String} :
  member? ms name = none ↔ ∀ m ∈ ms, m.1 ≠ name
  := by
  induction ms using List.reverseRecOn with
  | nil => simp [member?]
  | append_singleton ms m ih =>
    rw [member?_concat]
    by_cases hname : m.1 = name
    · have hm : m ∈ ms ++ [m] := by simp
      rw [if_pos hname]
      constructor
      · intro h
        cases h
      · intro h
        exact absurd hname (h m hm)
    · simp [hname, ih, or_imp, forall_and]

theorem mem_of_member? {ms : Members} {name : String} {d : Data} (h : member? ms name = some d) :
  (name, d) ∈ ms
  := by
  induction ms using List.reverseRecOn with
  | nil => cases h
  | append_singleton ms m ih =>
    rw [member?_concat] at h
    split at h
    · next hname =>
      cases h
      simp [← hname]
    · apply List.mem_append_left
      apply ih h

/-- If no name is repeated, the value of a name is that of its member. -/
theorem member?_eq_some_iff {ms : Members} (h : (ms.map Prod.fst).Nodup) {name : String}
    {d : Data} :
  member? ms name = some d ↔ (name, d) ∈ ms
  := by
  induction ms using List.reverseRecOn with
  | nil => simp [member?]
  | append_singleton ms m ih =>
    obtain ⟨name', e⟩ := m
    rw [List.map_append, List.nodup_append] at h
    obtain ⟨hnodup, -, hnew⟩ := h
    rw [member?_concat, List.mem_append, List.mem_singleton]
    split
    · next hname =>
      subst hname
      have hnot : (name', d) ∉ ms := by
        intro hmem
        apply hnew name' (List.mem_map.mpr ⟨_, hmem, rfl⟩) name' (by simp) rfl
      simp [hnot, eq_comm]
    · next hname =>
      rw [ih hnodup]
      simp [Ne.symm hname]

/-- The value of a member once nulls are left out. -/
theorem member?_withoutNulls {ms : Members} (hms : (ms.map Prod.fst).Nodup) {name : String}
    {d : Data} (h : ms.lookup name = some d) :
  member? (membersWithoutNulls ms) name = if d.isNull then none else some d.withoutNulls
  := by
  have hmem : (name, d) ∈ ms := by
    obtain ⟨before, after, rfl, -⟩ := List.lookup_eq_some_iff.mp h
    simp
  have hiff : ∀ e, member? (membersWithoutNulls ms) name = some e
      ↔ d.isNull = false ∧ d.withoutNulls = e := by
    intro e
    rw [member?_eq_some_iff (nodup_names_membersWithoutNulls hms), membersWithoutNulls_eq]
    simp only [List.mem_map, List.mem_filter, Bool.not_eq_true', Prod.mk.injEq]
    constructor
    · rintro ⟨⟨name', d'⟩, ⟨hmem', hnull⟩, rfl, rfl⟩
      obtain rfl : d' = d := congrArg Prod.snd (List.inj_on_of_nodup_map hms hmem' hmem rfl)
      exact ⟨hnull, rfl⟩
    · rintro ⟨hnull, rfl⟩
      exact ⟨(name, d), ⟨hmem, hnull⟩, rfl, rfl⟩
  cases hnull : d.isNull with
  | true =>
    apply Option.eq_none_iff_forall_ne_some.mpr
    intro e he
    rw [hiff, hnull] at he
    cases he.1
  | false => apply (hiff _).mpr ⟨hnull, rfl⟩

end Data

/-! ### Readers -/

/-- That a reader gets back every value from its document, which is not null, also when nulls are
left out of it. -/
def Reader.Inverts {α : Type} (reader : Reader α) (document : α → Data) : Prop :=
  ∀ a, (document a).isNull = false ∧ reader (document a).withoutNulls = .valid a

namespace Reader

variable {α : Type} {reader : Reader α} {document : α → Data}

theorem inverts_text : Inverts text .text := fun _ => ⟨rfl, rfl⟩

theorem inverts_int : Inverts int .int := fun _ => ⟨rfl, rfl⟩

theorem inverts_bool : Inverts bool .bool := fun _ => ⟨rfl, rfl⟩

/-- A name is read back if it is found in the list of names. -/
theorem inverts_named {names : List (String × α)} {name : α → String} (flaw : Flaw)
    (h : ∀ a, Text.isWhole (name a) = true ∧ names.lookup (name a) = some a) :
  Inverts (named names flaw) fun a => .text (name a)
  := by
  intro a
  refine ⟨rfl, ?_⟩
  simp [Data.withoutNulls, named, ofText, h a]

/-- A list is read if its items are. -/
theorem list_eq_valid {as : List α} {ds : List Data}
    (h : List.Forall₂ (fun a d => reader d = .valid a) as ds) :
  list reader (.list ds) = .valid as
  := by
  have hitems : ∀ n, itemsFrom reader n ds = .valid as := by
    induction h with
    | nil =>
      intro n
      rfl
    | cons ha _ ih =>
      intro n
      simp only [itemsFrom, ha, ih, Checked.under_valid, Checked.map_valid, Checked.seq_valid]
  apply hitems 0

theorem inverts_list (h : Inverts reader document) :
  Inverts (list reader) fun as => .list (as.map document)
  := by
  intro as
  refine ⟨rfl, ?_⟩
  rw [Data.withoutNulls, Data.itemsWithoutNulls_eq, List.map_map]
  apply list_eq_valid
  apply List.forall₂_map_right_iff.mpr
  apply List.forall₂_same.mpr
  intro a _
  apply (h a).2

theorem nullable_of_not_null {d : Data} (h : d.isNull = false) :
  nullable reader d = (reader d).map some
  := by
  cases d <;> first | rfl | cases h

end Reader

theorem NodeKind.inverts_name :
  Reader.Inverts (Reader.choice NodeKind.names) fun kind => .text kind.name
  := by
  apply Reader.inverts_named
  intro kind
  cases kind <;> exact ⟨rfl, rfl⟩

theorem EdgeKind.inverts_name :
  Reader.Inverts (Reader.choice EdgeKind.names) fun kind => .text kind.name
  := by
  apply Reader.inverts_named
  intro kind
  cases kind <;> exact ⟨rfl, rfl⟩

namespace Members

variable {α : Type} {reader : Reader α} {document : α → Data} {ms : Members} {a : α}

theorem find?_plain (ms : Members) (name : String) :
  ms.find? (.plain name) = (Data.member? ms name).map fun d => (name, d)
  := by
  cases h : Data.member? ms name <;> simp [find?, Spelling.plain, Spelling.names, h]

variable (hms : (ms.map Prod.fst).Nodup) (name : String) (hreader : reader.Inverts document)

include hms hreader

/-- A field that is there is read back. -/
theorem required_withoutNulls (h : ms.lookup name = some (document a)) :
  required (Data.membersWithoutNulls ms) (.plain name) reader = .valid a
  := by
  obtain ⟨hnull, hread⟩ := hreader a
  rw [required, find?_plain, Data.member?_withoutNulls hms h, hnull]
  simp [hread]

theorem optional_withoutNulls (h : ms.lookup name = some (document a)) {absent : α} :
  optional (Data.membersWithoutNulls ms) (.plain name) absent reader = .valid a
  := by
  obtain ⟨hnull, hread⟩ := hreader a
  rw [optional, find?_plain, Data.member?_withoutNulls hms h, hnull]
  simp [hread]

/-- A field that may be missing is read back, whether it is there or not. -/
theorem maybe_withoutNulls {a? : Option α} (h : ms.lookup name = some (a?.elim .null document)) :
  maybe (Data.membersWithoutNulls ms) (.plain name) reader = .valid a?
  := by
  rw [maybe, optional, find?_plain, Data.member?_withoutNulls hms h]
  cases a? with
  | none => rfl
  | some a =>
    obtain ⟨hnull, hread⟩ := hreader a
    have hnullable : Reader.nullable reader (document a).withoutNulls = .valid (some a) := by
      rw [Reader.nullable_of_not_null, hread]
      · rfl
      · rw [Data.isNull_withoutNulls, hnull]
    simp [hnull, hnullable]

end Members

/-- A record whose members have names of their own is read back if its fields are. -/
theorem Reader.record_withoutNulls {α : Type} {title : String} {reader : Members → Checked α}
    {ms : Members} {a : α} (hms : (ms.map Prod.fst).Nodup)
    (h : (ms.map Prod.fst).Nodup → reader (Data.membersWithoutNulls ms) = .valid a) :
  Reader.record title reader (Data.record ms).withoutNulls = .valid a
  := h hms

namespace Data

/-! ### Documents that can be written -/

theorem torn?_text_eq_none_iff {s : String} : (text s).torn? = none ↔ Text.isWhole s = true := by
  have hdrop : s.toList.dropWhile (fun c => !Text.keepsHalf c) = [] ↔ Text.isWhole s = true := by
    rw [List.dropWhile_eq_nil_iff]
    simp [Text.isWhole]
  rw [← hdrop, torn?, Text.torn?]
  split <;> simp_all

theorem tornItem?_eq_none_iff {ds : List Data} :
  tornItem? ds = none ↔ ∀ d ∈ ds, d.torn? = none
  := by
  induction ds with
  | nil => simp [tornItem?]
  | cons d ds ih => simp [tornItem?, ih]

theorem tornMember?_eq_none_iff {ms : Members} :
  tornMember? ms = none ↔ ∀ m ∈ ms, m.2.torn? = none
  := by
  induction ms with
  | nil => simp [tornMember?]
  | cons m ms ih => simp [tornMember?, ih]

/-- That nothing but half characters keeps a value from being written. -/
def IsPlain (d : Data) : Prop :=
  d.torn? = none → d.IsWritable

@[simp] theorem isPlain_text (s : String) : (text s).IsPlain :=
  fun h => .text (torn?_text_eq_none_iff.mp h)

@[simp] theorem isPlain_bool (b : Bool) : (bool b).IsPlain := fun _ => .bool b

@[simp] theorem isPlain_int (n : Int) : (int n).IsPlain := fun _ => .int n

@[simp] theorem isPlain_ofText? (t : Option String) : (ofText? t).IsPlain := by
  cases t with
  | none => exact fun _ => .null
  | some s => apply isPlain_text s

theorem isPlain_list {ds : List Data} (h : ∀ d ∈ ds, d.IsPlain) : (list ds).IsPlain := by
  intro htorn
  apply IsWritable.list
  intro d hd
  apply h d hd (tornItem?_eq_none_iff.mp htorn d hd)

@[simp] theorem isPlain_ofTexts (ts : List String) : (ofTexts ts).IsPlain :=
  isPlain_list (by simp)

theorem isPlain_record {ms : Members} (hnames : ∀ m ∈ ms, Text.isWhole m.1 = true)
    (h : ∀ m ∈ ms, m.2.IsPlain) :
  (record ms).IsPlain
  := by
  intro htorn
  apply IsWritable.record hnames
  intro m hm
  apply h m hm (tornMember?_eq_none_iff.mp htorn m hm)

/-- Leaving out nulls leaves a value one that can be written. -/
theorem IsWritable.withoutNulls {d : Data} (h : d.IsWritable) : d.withoutNulls.IsWritable := by
  induction h with
  | null => exact .null
  | bool b => exact .bool b
  | int n => exact .int n
  | text hs => exact .text hs
  | list hds ih =>
    rw [Data.withoutNulls, itemsWithoutNulls_eq]
    apply IsWritable.list
    simpa using ih
  | @record ms hnames hms ih =>
    rw [Data.withoutNulls, membersWithoutNulls_eq]
    apply IsWritable.record
    · intro m hm
      obtain ⟨n, hn, rfl⟩ := List.mem_map.mp hm
      apply hnames n (List.mem_filter.mp hn).1
    · intro m hm
      obtain ⟨n, hn, rfl⟩ := List.mem_map.mp hm
      apply ih n (List.mem_filter.mp hn).1

/-! ### Integers -/

theorem itemIntegers_eq (ds : List Data) : itemIntegers ds = ds.flatMap integers := by
  induction ds with
  | nil => rfl
  | cons d ds ih => rw [itemIntegers, ih, List.flatMap_cons]

@[simp] theorem integers_ofText? (t : Option String) : (ofText? t).integers = [] := by
  cases t <;> rfl

@[simp] theorem integers_ofTexts (ts : List String) : (ofTexts ts).integers = [] := by
  simp [ofTexts, integers, itemIntegers_eq]

/-- Leaving out nulls keeps the integers. -/
theorem IsWritable.integers_withoutNulls {d : Data} (h : d.IsWritable) :
  d.withoutNulls.integers = d.integers
  := by
  induction h with
  | null => rfl
  | bool b => rfl
  | int n => rfl
  | text hs => rfl
  | @list ds hds ih =>
    rw [Data.withoutNulls, itemsWithoutNulls_eq, integers, integers, itemIntegers_eq,
      itemIntegers_eq, List.flatMap_map]
    apply List.flatMap_congr ih
  | @record ms hnames hms ih =>
    rw [Data.withoutNulls, integers, integers]
    clear hnames hms
    induction ms with
    | nil => rfl
    | cons m ms ihms =>
      obtain ⟨name, d⟩ := m
      have hd := ih (name, d) List.mem_cons_self
      have hms := ihms fun m hm => ih m (List.mem_cons_of_mem _ hm)
      cases d with
      | null => apply hms
      | _ =>
        rw [membersWithoutNulls, memberIntegers, memberIntegers, hms, hd]
        simp

end Data

end Lineage
