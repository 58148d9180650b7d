import Lineage.Report.Csv
import Mathlib.Data.List.Forall2
import Mathlib.Tactic.Common

/-!
# Tables of comma-separated values

A table of comma-separated values has its records one after another. A line feed ends a record, and
commas stand between its fields. A field is plain, or it stands in quotes. Within quotes every
character may stand, and a quote is written twice.

These rules are stated as `Csv.IsTable`, a relation between characters and records. `Csv.decode`
reads a text a character at a time and keeps in mind where in a field it is. It gets the records of
every text that follows the rules, so a text has the records of at most one table.

An impact is written by the rules, whatever the ids of its elements are. So its text is read back.
-/

namespace Lineage.Csv

/-! ### Rules -/

/-- Whether a character may stand in a field that has no quotes around it. -/
def isPlain (c : Char) : Bool :=
  c ≠ '"' ∧ c ≠ ',' ∧ c ≠ '\r' ∧ c ≠ '\n'

/-- Whether some characters stand for a text within quotes. -/
inductive IsQuoted : List Char → List Char → Prop
  | nil : IsQuoted [] []
  | quote {cs text : List Char} (h : IsQuoted cs text) :
      IsQuoted ('"' :: '"' :: cs) ('"' :: text)
  | other {c : Char} {cs text : List Char} (hc : c ≠ '"') (h : IsQuoted cs text) :
      IsQuoted (c :: cs) (c :: text)

/-- Whether some characters are a field. -/
inductive IsField : List Char → String → Prop
  | plain {cs : List Char} (h : ∀ c ∈ cs, isPlain c) : IsField cs (String.ofList cs)
  | quoted {cs text : List Char} (h : IsQuoted cs text) :
      IsField ('"' :: (cs ++ ['"'])) (String.ofList text)

/-- Whether some characters are a record of fields. -/
inductive IsRecord : List Char → List String → Prop
  | last {cs : List Char} {field : String} (h : IsField cs field) :
      IsRecord (cs ++ ['\n']) [field]
  | more {cs ds : List Char} {field : String} {fields : List String} (h : IsField cs field)
      (hmore : IsRecord ds fields) : IsRecord (cs ++ ',' :: ds) (field :: fields)

/-- Whether some characters are a table of records. -/
inductive IsTable : List Char → List (List String) → Prop
  | nil : IsTable [] []
  | cons {cs ds : List Char} {record : List String} {records : List (List String)}
      (h : IsRecord cs record) (hmore : IsTable ds records) : IsTable (cs ++ ds) (record :: records)

/-! ### Reading -/

/-- Where in a field a reader is. -/
inductive Place where
  /-- Before its first character. -/
  | start
  /-- In a field without quotes. -/
  | plain
  /-- Within quotes. -/
  | quoted
  /-- After a quote within quotes. It ends the field, or it is the first one of two. -/
  | closed
  deriving DecidableEq, Repr

/-- What has been read of a table. -/
structure Reading where
  place : Place := .start
  /-- The characters of the field so far. -/
  field : List Char := []
  /-- The fields of the record before that. -/
  record : List String := []
  /-- The records before that. -/
  records : List (List String) := []
  deriving DecidableEq, Repr

namespace Reading

/-- The field goes on with a character. -/
def push (r : Reading) (place : Place) (c : Char) : Reading :=
  { r with place := place, field := r.field ++ [c] }

/-- The field ends, and another one follows. -/
def endField (r : Reading) : Reading :=
  { record := r.record ++ [String.ofList r.field], records := r.records }

/-- The field ends, and the record with it. -/
def endRecord (r : Reading) : Reading :=
  { records := r.records ++ [r.endField.record] }

/-- The field ends with a character. -/
def ended? (r : Reading) (c : Char) : Option Reading :=
  if c = ',' then some r.endField else if c = '\n' then some r.endRecord else none

/-- A field without quotes ends with a character, or goes on with it. -/
def plain? (r : Reading) (c : Char) : Option Reading :=
  (r.ended? c).or (if isPlain c then some (r.push .plain c) else none)

/-- What has been read with one more character. -/
def step (r : Reading) (c : Char) : Option Reading :=
  match r.place with
  | .start => if c = '"' then some { r with place := .quoted } else r.plain? c
  | .plain => r.plain? c
  | .quoted => some (if c = '"' then { r with place := .closed } else r.push .quoted c)
  | .closed => if c = '"' then some (r.push .quoted c) else r.ended? c

/-- What has been read with some more characters. -/
def run (r : Reading) (cs : List Char) : Option Reading :=
  cs.foldlM step r

end Reading

/-- The records of a table, unless a text does not follow the rules. -/
def decode (text : String) : Option (List (List String)) := do
  let r ← Reading.run {} text.toList
  if r.place = .start ∧ r.record = [] then return r.records else none

namespace Reading

theorem run_append (r : Reading) (cs ds : List Char) :
  r.run (cs ++ ds) = (r.run cs).bind fun r => r.run ds
  :=
  List.foldlM_append

theorem run_cons (r : Reading) (c : Char) (cs : List Char) :
  r.run (c :: cs) = (r.step c).bind fun r => r.run cs
  := rfl

/-- Where a field can end, it ends with a comma or a line feed. -/
theorem step_of_ended? {r r' : Reading} {c : Char} (hplace : r.place ≠ .quoted)
    (h : r.ended? c = some r') :
  r.step c = some r'
  := by
  have hc : c ≠ '"' := by
    rintro rfl
    cases h
  unfold step
  cases hstart : r.place with
  | start => simp [hc, plain?, h]
  | plain => simp [plain?, h]
  | quoted => exact absurd hstart hplace
  | closed => simp [hc, h]

theorem step_plain {r : Reading} {c : Char} (h : r.place = .start ∨ r.place = .plain)
    (hc : isPlain c) :
  r.step c = some (r.push .plain c)
  := by
  obtain ⟨hquote, hcomma, -, hfeed⟩ : c ≠ '"' ∧ c ≠ ',' ∧ c ≠ '\r' ∧ c ≠ '\n' := by
    simpa [isPlain] using hc
  unfold step
  rcases h with h | h <;> simp [h, hquote, hcomma, hfeed, hc, plain?, ended?]

end Reading

/-- Characters that stand for a text within quotes are read as that text. -/
theorem IsQuoted.run_eq {cs text : List Char} (h : IsQuoted cs text) {r : Reading}
    (hplace : r.place = .quoted) :
  r.run cs = some { r with field := r.field ++ text }
  := by
  induction h generalizing r with
  | nil => simp [Reading.run]
  | quote h ih =>
    have hclosed : r.step '"' = some { r with place := .closed } := by
      simp [Reading.step, hplace]
    -- the second quote takes the reader back into the field
    have hback : ({ r with place := .closed } : Reading).step '"' = some (r.push .quoted '"') := by
      simp [Reading.step, Reading.push]
    rw [Reading.run_cons, hclosed, Option.bind_some, Reading.run_cons, hback, Option.bind_some,
      ih rfl]
    simp [Reading.push, hplace]
  | @other c cs text hc h ih =>
    have hstep : r.step c = some (r.push .quoted c) := by
      simp [Reading.step, hplace, hc]
    rw [Reading.run_cons, hstep, Option.bind_some, ih rfl]
    simp [Reading.push, hplace]

/-- Plain characters are read as they stand. -/
theorem run_plain {cs : List Char} (h : ∀ c ∈ cs, isPlain c) {r : Reading}
    (hplace : r.place = .start ∨ r.place = .plain) :
  ∃ place ≠ .quoted, r.run cs = some { r with place := place, field := r.field ++ cs }
  := by
  induction cs generalizing r with
  | nil =>
    refine ⟨r.place, ?_, by simp [Reading.run]⟩
    rcases hplace with hplace | hplace <;> simp [hplace]
  | cons c cs ih =>
    obtain ⟨hc, hcs⟩ := List.forall_mem_cons.mp h
    obtain ⟨place, hne, hrun⟩ := ih hcs (r := r.push .plain c) (Or.inr rfl)
    refine ⟨place, hne, ?_⟩
    rw [Reading.run_cons, Reading.step_plain hplace hc, Option.bind_some, hrun]
    simp [Reading.push]

/-- A field is read up to a place where it can end. -/
theorem IsField.run_eq {cs : List Char} {field : String} (h : IsField cs field)
    (record : List String) (records : List (List String)) :
  ∃ r : Reading, Reading.run { record := record, records := records } cs = some r
    ∧ r.place ≠ .quoted ∧ r.endField = { record := record ++ [field], records := records }
  := by
  cases h with
  | plain h =>
    obtain ⟨place, hne, hrun⟩ :=
      run_plain h (r := { record := record, records := records }) (Or.inl rfl)
    exact ⟨_, hrun, hne, by simp [Reading.endField]⟩
  | @quoted cs text h =>
    refine ⟨⟨.closed, text, record, records⟩, ?_, by simp, rfl⟩
    have hopen : Reading.step { record := record, records := records } '"'
        = some { place := .quoted, record := record, records := records } := rfl
    rw [Reading.run_cons, hopen, Option.bind_some, Reading.run_append, h.run_eq rfl]
    rfl

/-- A record is read to its end. -/
theorem IsRecord.run_eq {cs : List Char} {fields : List String} (h : IsRecord cs fields)
    (record : List String) (records : List (List String)) :
  Reading.run { record := record, records := records } cs
    = some { records := records ++ [record ++ fields] }
  := by
  induction h generalizing record with
  | last h =>
    obtain ⟨r, hrun, hplace, hend⟩ := h.run_eq record records
    have hrecords : r.records = records := congrArg Reading.records hend
    rw [Reading.run_append, hrun, Option.bind_some, Reading.run_cons,
      Reading.step_of_ended? hplace rfl, Option.bind_some, Reading.endRecord, hend, hrecords]
    rfl
  | @more cs ds field fields h hmore ih =>
    obtain ⟨r, hrun, hplace, hend⟩ := h.run_eq record records
    rw [Reading.run_append, hrun, Option.bind_some, Reading.run_cons,
      Reading.step_of_ended? hplace rfl, Option.bind_some, hend, ih]
    simp

/-- A table is read to its end. -/
theorem IsTable.run_eq {cs : List Char} {table : List (List String)} (h : IsTable cs table)
    (records : List (List String)) :
  Reading.run { records := records } cs = some { records := records ++ table }
  := by
  induction h generalizing records with
  | nil => simp [Reading.run]
  | cons h hmore ih =>
    rw [Reading.run_append, h.run_eq, Option.bind_some, ih]
    simp

/-- The records of every text that follows the rules are read. -/
theorem IsTable.decode_eq {text : String} {table : List (List String)}
    (h : IsTable text.toList table) :
  decode text = some table
  := by
  simp [decode, h.run_eq []]

example : decode "\"a\"\"b,\n\",c\n" = some [["a\"b,\n", "c"]] := by decide

-- a quote may not stand in a field that has no quotes around it
example : decode "a\"b\n" = none := by decide

/-! ### Writing -/

theorem isQuoted_escape (cs : List Char) : IsQuoted (cs.flatMap escape) cs := by
  induction cs with
  | nil => apply IsQuoted.nil
  | cons c cs ih =>
    rw [List.flatMap_cons, escape]
    split
    · next hc =>
      subst hc
      apply IsQuoted.quote ih
    · next hc => apply IsQuoted.other hc ih

theorem isField_quoted (field : String) : IsField (quoted field).toList field := by
  have h := IsField.quoted (isQuoted_escape field.toList)
  rw [String.ofList_toList] at h
  simpa [quoted] using h

theorem isField_of_plain {field : String} (h : ∀ c ∈ field.toList, isPlain c) :
  IsField field.toList field
  := by
  simpa using IsField.plain h

theorem isPlain_of_isDigit {c : Char} (h : c.isDigit) : isPlain c := by
  have hne : ∀ d : Char, d.isDigit = false → c ≠ d := by
    rintro d hd rfl
    rw [hd] at h
    cases h
  simp [isPlain, hne '"' rfl, hne ',' rfl, hne '\r' rfl, hne '\n' rfl]

theorem isPlain_of_mem_repr {n : Nat} {c : Char} (h : c ∈ n.repr.toList) : isPlain c := by
  rw [Nat.toList_repr] at h
  apply isPlain_of_isDigit (Nat.isDigit_of_mem_toDigits (by decide) (by decide) h)

theorem isField_int (n : Int) : IsField (toString n).toList (toString n) := by
  apply isField_of_plain
  intro c hc
  cases n with
  | ofNat n => apply isPlain_of_mem_repr hc
  | negSucc n =>
    have hsign : toString (Int.negSucc n) = "-" ++ (n + 1).repr := rfl
    rw [hsign, String.toList_append] at hc
    rcases List.mem_append.mp hc with hc | hc
    · obtain rfl : c = '-' := by simpa using hc
      decide
    · apply isPlain_of_mem_repr hc

/-- A line of fields is a record. -/
theorem isRecord_line {written fields : List String}
    (h : List.Forall₂ (fun w field => IsField w.toList field) written fields)
    (hne : written ≠ []) :
  IsRecord (line written).toList fields
  := by
  have hline : ∀ ws : List String,
      (line ws).toList = [','].intercalate (ws.map String.toList) ++ ['\n'] := by
    intro ws
    simp [line]
  induction h with
  | nil => exact absurd rfl hne
  | @cons w field ws fields hw hws ih =>
    cases hws with
    | nil =>
      rw [hline]
      simpa using IsRecord.last hw
    | @cons v field' vs fields' hv hvs =>
      have hrecord := IsRecord.more hw (ih (by simp))
      rw [hline] at hrecord ⊢
      simpa [List.intercalate_cons_cons] using hrecord

end Lineage.Csv

namespace Lineage

theorem ElementKind.isField_name (k : ElementKind) : Csv.IsField k.name.toList k.name := by
  apply Csv.isField_of_plain
  cases k <;> simp [name, Csv.isPlain]

theorem Direction.isField_name (d : Direction) : Csv.IsField d.name.toList d.name := by
  apply Csv.isField_of_plain
  cases d <;> simp [name, Csv.isPlain]

theorem Csv.isRecord_header : Csv.IsRecord (Csv.line Csv.header).toList Csv.header := by
  refine Csv.isRecord_line (List.forall₂_same.mpr ?_) (by decide)
  intro name hname
  apply Csv.isField_of_plain
  revert name
  simp [Csv.header, Csv.isPlain]

/-- The line of an element is the record of its fields. -/
theorem Impacted.isRecord_csvLine (e : Impacted) : Csv.IsRecord e.csvLine.toList e.fields := by
  refine Csv.isRecord_line (.cons ?_ (.cons ?_ (.cons ?_ (.cons ?_ .nil)))) (by simp)
  · apply Csv.isField_quoted
  · apply ElementKind.isField_name
  · apply Direction.isField_name
  · apply Csv.isField_int

theorem Impacted.isTable_csvLines (es : List Impacted) :
  Csv.IsTable (String.join (es.map Impacted.csvLine)).toList (es.map Impacted.fields)
  := by
  induction es with
  | nil => apply Csv.IsTable.nil
  | cons e es ih =>
    rw [List.map_cons, String.join_cons, String.toList_append]
    apply Csv.IsTable.cons e.isRecord_csvLine ih

theorem Impact.isTable_csv (i : Impact) :
  Csv.IsTable i.csv.toList (Csv.header :: i.elements.map Impacted.fields)
  := by
  rw [Impact.csv, Impact.csvLines, String.join_cons, String.toList_append]
  apply Csv.IsTable.cons Csv.isRecord_header (Impacted.isTable_csvLines i.elements)

/-- The text of an impact is read back as the names of the fields and then the fields of each
element in turn. By the rules there is no other way to read it. -/
theorem Impact.decode_csv (i : Impact) :
  Csv.decode i.csv = some (Csv.header :: i.elements.map Impacted.fields)
    ∧ ∀ table, Csv.IsTable i.csv.toList table
      ↔ table = Csv.header :: i.elements.map Impacted.fields
  := by
  have hdecode := i.isTable_csv.decode_eq
  refine ⟨hdecode, fun table => ⟨?_, ?_⟩⟩
  · intro htable
    have hsame : some table = some _ := htable.decode_eq.symm.trans hdecode
    apply Option.some.inj hsame
  · rintro rfl
    apply i.isTable_csv

end Lineage
