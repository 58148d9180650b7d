import Lineage.Proofs.Documents

/-!
# Saved diagrams

A diagram is read back from its JSON text, in which nothing is written for what is missing. This
takes that its texts have no half characters and that none of its counts has more digits than are
read. A count with more digits is written all the same, and then the text cannot be read.

What a box shows is not told by a word in its document. The document of a script does not say what
shape it is drawn in, so it cannot be read as that of a table. That of a table may well be read as
that of a script, but it sets at least nine fields of a table and at most four of a script.
-/

namespace Lineage

/-! ### Readers of the parts -/

theorem Column.inverts_document : Reader.Inverts Column.read Column.document := by
  intro c
  refine ⟨rfl, Reader.record_withoutNulls (by simp) fun hnames => ?_⟩
  rw [Members.required_withoutNulls hnames "id" Reader.inverts_text rfl,
    Members.required_withoutNulls hnames "name" Reader.inverts_text rfl,
    Members.maybe_withoutNulls hnames "expression" Reader.inverts_text rfl,
    Members.maybe_withoutNulls hnames "source_name" Reader.inverts_text rfl]
  rfl

theorem TableShape.inverts_name :
  Reader.Inverts (Reader.word TableShape.names) fun shape => .text shape.name
  := by
  apply Reader.inverts_named
  intro shape
  cases shape <;> exact ⟨rfl, rfl⟩

theorem TableFace.inverts_document : Reader.Inverts TableFace.read TableFace.document := by
  intro f
  refine ⟨rfl, Reader.record_withoutNulls (by simp) fun hnames => ?_⟩
  rw [Members.required_withoutNulls hnames "label" Reader.inverts_text rfl,
    Members.required_withoutNulls hnames "node_type" TableShape.inverts_name rfl,
    Members.optional_withoutNulls hnames "columns" (Reader.inverts_list Column.inverts_document) rfl,
    Members.optional_withoutNulls hnames "is_selected" Reader.inverts_bool rfl,
    Members.optional_withoutNulls hnames "is_highlighted" Reader.inverts_bool rfl,
    Members.optional_withoutNulls hnames "is_collapsed" Reader.inverts_bool rfl,
    Members.optional_withoutNulls hnames "is_base_table" Reader.inverts_bool rfl,
    Members.optional_withoutNulls hnames "is_recursive" Reader.inverts_bool rfl,
    Members.optional_withoutNulls hnames "hidden_column_count" Reader.inverts_int rfl,
    Members.maybe_withoutNulls hnames "qualified_name" Reader.inverts_text rfl,
    Members.maybe_withoutNulls hnames "schema_name" Reader.inverts_text rfl,
    Members.maybe_withoutNulls hnames "database" Reader.inverts_text rfl,
    Members.maybe_withoutNulls hnames "join_type" Reader.inverts_text rfl,
    Members.maybe_withoutNulls hnames "join_condition" Reader.inverts_text rfl,
    Members.maybe_withoutNulls hnames "source_name" Reader.inverts_text rfl]
  rfl

theorem ScriptFace.inverts_document : Reader.Inverts ScriptFace.read ScriptFace.document := by
  intro f
  refine ⟨rfl, Reader.record_withoutNulls (by simp) fun hnames => ?_⟩
  rw [Members.required_withoutNulls hnames "label" Reader.inverts_text rfl,
    Members.required_withoutNulls hnames "source_name" Reader.inverts_text rfl,
    Members.optional_withoutNulls hnames "tables_read" (Reader.inverts_list Reader.inverts_text) rfl,
    Members.optional_withoutNulls hnames "tables_written" (Reader.inverts_list Reader.inverts_text) rfl,
    Members.optional_withoutNulls hnames "statement_count" Reader.inverts_int rfl,
    Members.optional_withoutNulls hnames "is_selected" Reader.inverts_bool rfl,
    Members.optional_withoutNulls hnames "is_highlighted" Reader.inverts_bool rfl]
  rfl

theorem Flow.inverts_document : Reader.Inverts Flow.read Flow.document := by
  intro f
  refine ⟨rfl, Reader.record_withoutNulls (by simp) fun hnames => ?_⟩
  rw [Members.required_withoutNulls hnames "kind" EdgeKind.inverts_name rfl,
    Members.maybe_withoutNulls hnames "expression" Reader.inverts_text rfl,
    Members.maybe_withoutNulls hnames "source_column" Reader.inverts_text rfl,
    Members.maybe_withoutNulls hnames "target_column" Reader.inverts_text rfl,
    Members.optional_withoutNulls hnames "is_derived" Reader.inverts_bool rfl,
    Members.maybe_withoutNulls hnames "join_type" Reader.inverts_text rfl,
    Members.maybe_withoutNulls hnames "join_condition" Reader.inverts_text rfl]
  rfl

theorem Link.inverts_document : Reader.Inverts Link.read Link.document := by
  intro l
  refine ⟨rfl, Reader.record_withoutNulls (by simp) fun hnames => ?_⟩
  rw [Members.required_withoutNulls hnames "id" Reader.inverts_text rfl,
    Members.required_withoutNulls hnames "source" Reader.inverts_text rfl,
    Members.required_withoutNulls hnames "target" Reader.inverts_text rfl,
    Members.maybe_withoutNulls hnames "source_handle" Reader.inverts_text rfl,
    Members.maybe_withoutNulls hnames "target_handle" Reader.inverts_text rfl,
    Members.maybe_withoutNulls hnames "label" Reader.inverts_text rfl,
    Members.maybe_withoutNulls hnames "data" Flow.inverts_document rfl]
  rfl

/-! ### Tables and scripts -/

/-- Whether a field is set by a document once nulls are left out. -/
theorem Data.isSome_get?_withoutNulls {ms : Members} (hms : (ms.map Prod.fst).Nodup)
    (name : String) :
  ((record ms).withoutNulls.get? name).isSome = (ms.lookup name).any fun d => !d.isNull
  := by
  rw [withoutNulls, get?]
  cases h : ms.lookup name with
  | none =>
    rw [List.lookup_eq_none_iff] at h
    have hnone : member? (membersWithoutNulls ms) name = none := by
      rw [member?_eq_none_iff, membersWithoutNulls_eq]
      grind
    rw [hnone]
    rfl
  | some d =>
    rw [member?_withoutNulls hms h, Option.any_some]
    cases d.isNull <;> rfl

/-- Whether something was read without problems. -/
def Checked.isValid {α : Type} : Checked α → Bool
  | valid _ => true
  | invalid _ => false

@[simp] theorem Checked.isValid_map {α β : Type} (f : α → β) (c : Checked α) :
  (c.map f).isValid = c.isValid
  := by
  cases c <;> rfl

@[simp] theorem Checked.isValid_seq {α β : Type} (f : Checked (α → β)) (c : Checked α) :
  (f.seq c).isValid = (f.isValid && c.isValid)
  := by
  cases f <;> cases c <;> rfl

theorem Members.isValid_required_of_absent {α : Type} {ms : Members} {name : String}
    (h : Data.member? ms name = none) (reader : Reader α) :
  (required ms (.plain name) reader).isValid = false
  := by
  rw [required, find?_plain, h]
  rfl

/-- The document of a script cannot be read as that of a table: it says nothing of a shape. -/
theorem ScriptFace.isValid_read_table (f : ScriptFace) :
  (TableFace.read f.document.withoutNulls).isValid = false
  := by
  obtain ⟨ms, hdocument, hshape⟩ : ∃ ms, f.document.withoutNulls = .record ms
      ∧ Data.member? ms "node_type" = none := ⟨_, rfl, rfl⟩
  rw [hdocument]
  simp [TableFace.read, Reader.record, Members.isValid_required_of_absent hshape]

theorem Data.fieldsSet_withoutNulls {ms : Members} (hms : (ms.map Prod.fst).Nodup)
    (names : List String) :
  (record ms).withoutNulls.fieldsSet names
    = names.countP fun name => (ms.lookup name).any fun d => !d.isNull
  := by
  simp only [fieldsSet, isSome_get?_withoutNulls hms]

/-- The document of a table sets the first nine fields of a table in any case. -/
theorem TableFace.nine_le_fieldsSet (f : TableFace) :
  9 ≤ TableFace.fieldsSet f.document.withoutNulls
  := by
  apply Nat.le_add_right_of_le
  rw [TableFace.document, Data.fieldsSet_withoutNulls (by simp)]
  refine le_trans ?_ ((List.take_sublist 9 fieldNames).countP_le)
  simp [fieldNames, List.lookup_cons, Data.isNull]

/-- The document of a table sets the label of a script, two marks and possibly the source. -/
theorem TableFace.fieldsSet_script_le (f : TableFace) :
  ScriptFace.fieldsSet f.document.withoutNulls ≤ 4
  := by
  rw [ScriptFace.fieldsSet, TableFace.document, Data.fieldsSet_withoutNulls (by simp)]
  simp only [ScriptFace.fieldNames, List.countP_cons, List.countP_nil, List.lookup_cons,
    List.lookup_nil]
  cases f.sourceName <;> simp [Data.isNull, Data.ofText?]

/-- What a box shows is read back: of a table and of a script, that which was written is chosen. -/
theorem Face.inverts_document : Reader.Inverts Face.read Face.document := by
  intro face
  cases face with
  | table f =>
    refine ⟨rfl, ?_⟩
    have hmore : ¬TableFace.fieldsSet f.document.withoutNulls
        < ScriptFace.fieldsSet f.document.withoutNulls := by
      have hnine := f.nine_le_fieldsSet
      have hfour := f.fieldsSet_script_le
      omega
    rw [Face.document, Face.read, (TableFace.inverts_document f).2]
    cases ScriptFace.read f.document.withoutNulls with
    | valid s => simp [hmore]
    | invalid ps => rfl
  | script f =>
    refine ⟨rfl, ?_⟩
    have htable := f.isValid_read_table
    rw [Face.document, Face.read, (ScriptFace.inverts_document f).2]
    cases hread : TableFace.read f.document.withoutNulls with
    | valid t => simp [hread, Checked.isValid] at htable
    | invalid ps => rfl

/-! ### Diagrams -/

theorem BoxKind.inverts_name :
  Reader.Inverts (Reader.word BoxKind.names) fun kind => .text kind.name
  := by
  apply Reader.inverts_named
  intro kind
  cases kind <;> exact ⟨rfl, rfl⟩

theorem Box.inverts_document : Reader.Inverts Box.read Box.document := by
  intro b
  refine ⟨rfl, Reader.record_withoutNulls (by simp) fun hnames => ?_⟩
  rw [Members.required_withoutNulls hnames "id" Reader.inverts_text rfl,
    Members.required_withoutNulls hnames "type" BoxKind.inverts_name rfl,
    Members.required_withoutNulls hnames "data" Face.inverts_document rfl]
  rfl

theorem Diagram.inverts_document : Reader.Inverts Diagram.read Diagram.document := by
  intro d
  refine ⟨rfl, Reader.record_withoutNulls (by simp) fun hnames => ?_⟩
  rw [Members.optional_withoutNulls hnames "nodes" (Reader.inverts_list Box.inverts_document) rfl,
    Members.optional_withoutNulls hnames "edges" (Reader.inverts_list Link.inverts_document) rfl]
  rfl

/-! ### Parts that can be written -/

theorem Column.isPlain_document (c : Column) : c.document.IsPlain := by
  apply Data.isPlain_record
  · simp [Text.isWhole, Text.keepsHalf, Text.block]
  · simp

theorem Face.isPlain_document (face : Face) : face.document.IsPlain := by
  cases face with
  | table f =>
    have hcolumns : (Data.list (f.columns.map Column.document)).IsPlain :=
      Data.isPlain_list (by simp [Column.isPlain_document])
    apply Data.isPlain_record
    · simp [Text.isWhole, Text.keepsHalf, Text.block]
    · simp [hcolumns]
  | script f =>
    apply Data.isPlain_record
    · simp [Text.isWhole, Text.keepsHalf, Text.block]
    · simp

theorem Link.isPlain_document (l : Link) : l.document.IsPlain := by
  have hflow : (l.flow.elim .null Flow.document).IsPlain := by
    cases l.flow with
    | none => exact fun _ => .null
    | some f =>
      apply Data.isPlain_record
      · simp [Text.isWhole, Text.keepsHalf, Text.block]
      · simp
  apply Data.isPlain_record
  · simp [Text.isWhole, Text.keepsHalf, Text.block]
  · simp [hflow]

theorem Box.isPlain_document (b : Box) : b.document.IsPlain := by
  apply Data.isPlain_record
  · simp [Text.isWhole, Text.keepsHalf, Text.block]
  · simp [Face.isPlain_document]

theorem Diagram.isPlain_document (d : Diagram) : d.document.IsPlain := by
  have hboxes : (Data.list (d.boxes.map Box.document)).IsPlain :=
    Data.isPlain_list (by simp [Box.isPlain_document])
  have hlinks : (Data.list (d.links.map Link.document)).IsPlain :=
    Data.isPlain_list (by simp [Link.isPlain_document])
  apply Data.isPlain_record
  · simp [Text.isWhole, Text.keepsHalf, Text.block]
  · simp [hboxes, hlinks]

/-! ### Counts -/

/-- The number that a box shows: that of hidden columns, or that of statements. -/
def Box.count (b : Box) : Int :=
  match b.face with
  | .table face => face.hiddenColumns
  | .script face => face.statementCount

/-- The numbers that the boxes show. -/
def Diagram.counts (d : Diagram) : List Int :=
  d.boxes.map Box.count

theorem Column.integers_document (c : Column) : c.document.integers = [] := by
  simp [Column.document, Data.integers, Data.memberIntegers]

theorem Box.integers_document (b : Box) : b.document.integers = [b.count] := by
  have hface : b.face.document.integers = [b.count] := by
    unfold Box.count
    cases b.face with
    | table f =>
      simp [Face.document, TableFace.document, Data.integers, Data.memberIntegers,
        Data.itemIntegers_eq, Column.integers_document]
    | script f =>
      simp [Face.document, ScriptFace.document, Data.integers, Data.memberIntegers]
  simp [Box.document, Data.integers, Data.memberIntegers, hface]

theorem Link.integers_document (l : Link) : l.document.integers = [] := by
  have hflow : (l.flow.elim .null Flow.document).integers = [] := by
    cases l.flow with
    | none => rfl
    | some f => simp [Flow.document, Data.integers, Data.memberIntegers]
  simp [Link.document, Data.integers, Data.memberIntegers, hflow]

theorem Diagram.integers_document (d : Diagram) : d.document.integers = d.counts := by
  have hboxes : Data.itemIntegers (d.boxes.map Box.document) = d.counts := by
    rw [Data.itemIntegers_eq, List.flatMap_map, counts, List.map_eq_flatMap]
    simp only [Box.integers_document]
  have hlinks : Data.itemIntegers (d.links.map Link.document) = [] := by
    rw [Data.itemIntegers_eq, List.flatMap_map]
    simp [Link.integers_document]
  simp [document, Data.integers, Data.memberIntegers, hboxes, hlinks]

namespace Diagram

variable {d : Diagram}

/-- What is read of the text of a diagram whose texts have no half characters. -/
theorem read_save_cases (htexts : d.document.torn? = none) :
  match d.counts.find? Json.isLong with
  | none => Json.read d.save = .ok d.document.withoutNulls
  | some n => ∃ place, Json.read d.save = .error ⟨.longInteger (Json.digitCount n), place⟩
  := by
  have hwritable : d.document.IsWritable := d.isPlain_document htexts
  rw [← integers_document, ← hwritable.integers_withoutNulls]
  apply Json.read_write .indented rfl hwritable.withoutNulls

/-- A text with a count of too many digits cannot be read. -/
theorem exists_fault_of_long (htexts : d.document.torn? = none) {n : Int} (hn : n ∈ d.counts)
    (hlong : 10 ^ digitLimit ≤ n.natAbs) :
  ∃ digits place, digitLimit < digits ∧ Json.read d.save = .error ⟨.longInteger digits, place⟩
  := by
  have hfind : (d.counts.find? Json.isLong).isSome := by
    rw [List.find?_isSome]
    refine ⟨n, hn, ?_⟩
    rw [← Bool.not_eq_false, Json.isLong_eq_false_iff]
    apply Nat.not_lt.mpr hlong
  obtain ⟨m, hm⟩ := Option.isSome_iff_exists.mp hfind
  have hread := read_save_cases htexts
  rw [hm] at hread
  obtain ⟨place, hplace⟩ := hread
  have hdigits : digitLimit < Json.digitCount m := by
    simpa [Json.isLong] using List.find?_some hm
  exact ⟨Json.digitCount m, place, hdigits, hplace⟩

/-- A diagram whose texts have no half characters is read back from its text if its counts have no
more digits than are read. If one of them has more, the text cannot be read. -/
theorem read_save (htexts : d.document.torn? = none) :
  ((∀ n ∈ d.counts, n.natAbs < 10 ^ digitLimit) →
    Json.read d.save = .ok d.document.withoutNulls
      ∧ Diagram.read d.document.withoutNulls = .valid d)
  ∧ ((∃ n ∈ d.counts, 10 ^ digitLimit ≤ n.natAbs) →
    ∃ digits place, digitLimit < digits ∧ Json.read d.save = .error ⟨.longInteger digits, place⟩)
  := by
  constructor
  · intro hcounts
    have hnone : d.counts.find? Json.isLong = none := by
      apply List.find?_eq_none.mpr
      intro n hn
      simp [Json.isLong_eq_false_iff.mpr (hcounts n hn)]
    have hread := read_save_cases htexts
    rw [hnone] at hread
    exact ⟨hread, (inverts_document d).2⟩
  · rintro ⟨n, hn, hlong⟩
    apply exists_fault_of_long htexts hn hlong

/-- A table with a column, a script and two links, with texts that need escapes and texts that are
empty or missing. -/
def assorted : Diagram :=
  { boxes :=
      [{ id := "t\"\n", kind := .table
         face := .table
          { label := "größe\t\x01", shape := .view, hiddenColumns := -3, schemaName := some ""
            columns := [{ id := "t.x", name := "x", expression := some "a \\ b" }] } },
       { id := "script:s", kind := .script
         face := .script { label := "s", sourceName := "s", tablesRead := ["t"] } }]
    links :=
      [{ id := "1", source := "t\"\n", target := "script:s", sourceHandle := some "t.x"
         flow := some { kind := .derivation, sourceColumn := some "x" } },
       { id := "2", source := "script:s", target := "t\"\n" }] }

theorem read_save_assorted :
  assorted.counts = [-3, 0]
    ∧ Json.read assorted.save = .ok assorted.document.withoutNulls
    ∧ Diagram.read assorted.document.withoutNulls = .valid assorted
  := by
  have hcounts : ∀ n ∈ assorted.counts, n.natAbs < 10 ^ digitLimit := by decide +kernel
  exact ⟨rfl, (read_save (by decide +kernel)).1 hcounts⟩

/-- A table with a number of hidden columns that has one digit more than are read. -/
def crowded : Diagram :=
  { boxes :=
      [{ id := "t", kind := .table
         face := .table { label := "t", shape := .table, hiddenColumns := 10 ^ digitLimit } }] }

/-- The text of the table cannot be read. -/
theorem read_save_crowded :
  crowded.document.torn? = none
    ∧ (∀ b ∈ crowded.boxes, b.kind = .script ↔ b.table? = none)
    ∧ ∃ digits place, Json.read crowded.save = .error ⟨.longInteger digits, place⟩
  := by
  have htexts : crowded.document.torn? = none := by decide +kernel
  refine ⟨htexts, ?_, ?_⟩
  · simp [crowded, Box.table?]
  · obtain ⟨digits, place, -, hread⟩ :=
      exists_fault_of_long htexts (n := 10 ^ digitLimit) (by simp [counts, crowded, Box.count])
        (by simp [Int.natAbs_pow])
    exact ⟨digits, place, hread⟩

end Diagram

end Lineage
