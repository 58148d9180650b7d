import Lineage.Proofs.Connections
import Lineage.Proofs.Failures

/-!
# Highlights and searches

A view highlights the boxes that show the term that is searched for, as their label or as the name
of a column. A search of the view for the term is made apart from that. In the views of scripts it
finds just the boxes that are highlighted. In the view of tables it looks at labels alone, so a
highlighted box that it does not find shows the term in a column. In the view of columns it finds
columns, of highlighted boxes only, and some in each of them that has any.
-/

namespace Lineage

namespace Text

/-- Whether a text contains a term, letter case aside. -/
def Contains (text term : String) : Prop :=
  (lower term).toList <:+: (lower text).toList

theorem occursIn_iff {needle cs : List Char} : occursIn needle cs = true ↔ needle <:+: cs := by
  induction cs with
  | nil => rw [occursIn, List.isEmpty_iff, List.infix_nil]
  | cons c cs ih =>
    rw [occursIn, Bool.or_eq_true, List.isPrefixOf_iff_prefix, ih, List.infix_cons_iff]

theorem finds_iff {term text : String} :
  finds term text = true ↔ term ≠ "" ∧ Contains text term
  := by
  simp [finds, holds, occursIn_iff, Contains]

end Text

namespace Box

variable {b : Box} {term id : String}

/-- Whether a box is highlighted. -/
def isHighlighted (b : Box) : Bool :=
  match b.face with
  | .table face => face.isHighlighted
  | .script face => face.isHighlighted

/-- Whether a box shows a term, in its label or in the name of one of its columns. -/
def Shows (b : Box) (term : String) : Prop :=
  Text.Contains b.face.label term ∨ ∃ c ∈ b.columns, Text.Contains c.name term

/-- Whether a box is highlighted exactly if a search for a term matches it. -/
def Reflects (b : Box) (term : String) : Prop :=
  b.isHighlighted = matchesSearch term b.face.label b.columns

theorem Reflects.isHighlighted_iff (h : b.Reflects term) :
  b.isHighlighted = true
    ↔ Text.finds term b.face.label = true ∨ ∃ c ∈ b.columns, Text.finds term c.name = true
  := by
  rw [h, matchesSearch, Bool.or_eq_true, List.any_eq_true]

theorem Reflects.isHighlighted_iff_shows (h : b.Reflects term) :
  b.isHighlighted = true ↔ term ≠ "" ∧ b.Shows term
  := by
  simp only [h.isHighlighted_iff, Text.finds_iff, Shows]
  grind

/-! ### What a search finds in a box -/

theorem mem_matches_table :
  id ∈ b.matches .table term
    ↔ b.table?.isSome = true ∧ Text.finds term b.face.label = true ∧ id = b.id
  := by
  cases hface : b.face <;> simp [Box.matches, table?, hface, Face.label]

theorem mem_matches_column :
  id ∈ b.matches .column term
    ↔ ∃ c ∈ b.columns,
      (Text.finds term b.face.label = true ∨ Text.finds term c.name = true) ∧ c.id = id
  := by
  cases hface : b.face <;> simp [Box.matches, table?, columns, hface, Face.label, and_assoc]

theorem mem_matches_scripts {view : View} (hview : view = .script ∨ view = .hybrid) :
  id ∈ b.matches view term
    ↔ b.kind ≠ .table ∧ Text.finds term b.face.label = true ∧ id = b.id
  := by
  rcases hview with rfl | rfl <;> simp [Box.matches, and_assoc]

end Box

namespace Diagram

variable {d : Diagram} {term : String}

/-- Whether what a search for a term finds in a view agrees with what is highlighted there. -/
def SearchAgrees (d : Diagram) (view : View) (term : String) : Prop :=
  match view with
  | .table =>
    (∀ id ∈ d.matches .table term, ∃ b ∈ d.boxes, b.isHighlighted = true ∧ id = b.id)
      ∧ ∀ b ∈ d.boxes, b.isHighlighted = true → b.id ∉ d.matches .table term →
        ∃ c ∈ b.columns, Text.Contains c.name term
  | .column =>
    (∀ id ∈ d.matches .column term, ∃ b ∈ d.boxes, b.isHighlighted = true ∧ id ∈ b.handles)
      ∧ ∀ b ∈ d.boxes, b.isHighlighted = true → b.columns ≠ [] →
        ∃ id ∈ b.handles, id ∈ d.matches .column term
  | view => ∀ id, id ∈ d.matches view term ↔ ∃ b ∈ d.boxes, b.isHighlighted = true ∧ id = b.id

/-- The search of the view of tables passes over the columns. -/
theorem searchAgrees_table
    (h : ∀ b ∈ d.boxes, b.table?.isSome = true ∧ b.Reflects term) :
  d.SearchAgrees .table term
  := by
  constructor
  · intro id hid
    obtain ⟨b, hb, hmatch⟩ := List.mem_flatMap.mp hid
    obtain ⟨-, hlabel, rfl⟩ := Box.mem_matches_table.mp hmatch
    exact ⟨b, hb, (h b hb).2.isHighlighted_iff.mpr (Or.inl hlabel), rfl⟩
  · intro b hb hlit hid
    obtain ⟨htable, hreflects⟩ := h b hb
    rcases hreflects.isHighlighted_iff.mp hlit with hlabel | ⟨c, hc, hname⟩
    · have hmatch := Box.mem_matches_table.mpr ⟨htable, hlabel, rfl⟩
      exact absurd (List.mem_flatMap.mpr ⟨b, hb, hmatch⟩) hid
    · exact ⟨c, hc, (Text.finds_iff.mp hname).2⟩

/-- The search of the view of columns finds all the columns of a table of which it finds the
label. -/
theorem searchAgrees_column (h : ∀ b ∈ d.boxes, b.Reflects term) : d.SearchAgrees .column term := by
  constructor
  · intro id hid
    obtain ⟨b, hb, hmatch⟩ := List.mem_flatMap.mp hid
    obtain ⟨c, hc, hfinds, rfl⟩ := Box.mem_matches_column.mp hmatch
    have hlit := (h b hb).isHighlighted_iff.mpr (hfinds.imp_right fun hname => ⟨c, hc, hname⟩)
    exact ⟨b, hb, hlit, List.mem_map_of_mem hc⟩
  · intro b hb hlit hcolumns
    obtain ⟨c, hc, hfinds⟩ : ∃ c ∈ b.columns,
        Text.finds term b.face.label = true ∨ Text.finds term c.name = true := by
      rcases (h b hb).isHighlighted_iff.mp hlit with hlabel | ⟨c, hc, hname⟩
      · obtain ⟨c, hc⟩ := List.exists_mem_of_ne_nil _ hcolumns
        exact ⟨c, hc, Or.inl hlabel⟩
      · exact ⟨c, hc, Or.inr hname⟩
    have hmatch := Box.mem_matches_column.mpr ⟨c, hc, hfinds, rfl⟩
    exact ⟨c.id, List.mem_map_of_mem hc, List.mem_flatMap.mpr ⟨b, hb, hmatch⟩⟩

/-- The boxes in the views of scripts have no columns, so the search finds all that is
highlighted. -/
theorem searchAgrees_scripts {view : View} (hview : view = .script ∨ view = .hybrid)
    (h : ∀ b ∈ d.boxes, b.kind ≠ .table ∧ b.columns = [] ∧ b.Reflects term) :
  d.SearchAgrees view term
  := by
  have hlit : ∀ b ∈ d.boxes, b.isHighlighted = true ↔ Text.finds term b.face.label = true := by
    intro b hb
    obtain ⟨-, hcolumns, hreflects⟩ := h b hb
    simp [hreflects.isHighlighted_iff, hcolumns]
  have hfound : ∀ id, id ∈ d.matches view term
      ↔ ∃ b ∈ d.boxes, b.isHighlighted = true ∧ id = b.id := by
    intro id
    rw [Diagram.matches, List.mem_flatMap]
    -- the search passes over boxes of tables with columns, of which there are none here
    constructor
    · rintro ⟨b, hb, hmatch⟩
      obtain ⟨-, hlabel, rfl⟩ := (Box.mem_matches_scripts hview).mp hmatch
      exact ⟨b, hb, (hlit b hb).mpr hlabel, rfl⟩
    · rintro ⟨b, hb, hb', rfl⟩
      exact ⟨b, hb, (Box.mem_matches_scripts hview).mpr ⟨(h b hb).1, (hlit b hb).mp hb', rfl⟩⟩
  rcases hview with rfl | rfl
  · exact hfound
  · exact hfound

end Diagram

/-! ### What is highlighted -/

/-- The boxes of a statement are tables, and they are highlighted for their labels and columns. -/
theorem Placement.reflects_of_mem_boxes {p : Placement} {options : Options} {bs : List Box}
    (h : p.boxes options = .ok bs) {b : Box} (hb : b ∈ bs) :
  b.table?.isSome = true ∧ b.Reflects options.searchTerm
  := by
  obtain ⟨n, -, shown, home, -, rfl⟩ | ⟨-, rfl⟩ := mem_boxes h hb
  · exact ⟨rfl, rfl⟩
  · exact ⟨rfl, rfl⟩

namespace Script

variable {options : Options}

/-- Without columns, a box is highlighted for its label. -/
theorem reflects_of_label {b : Box} {term : String} (hcolumns : b.columns = [])
    (h : b.isHighlighted = Text.finds term b.face.label) :
  b.Reflects term
  := by
  rw [Box.Reflects, h, hcolumns, matchesSearch, List.any_nil, Bool.or_false]

theorem reflects_box (s : Script) :
  (box options s).kind ≠ .table ∧ (box options s).columns = []
    ∧ (box options s).Reflects options.searchTerm
  :=
  ⟨by simp [box], rfl, reflects_of_label rfl rfl⟩

theorem Shared.reflects_box (r : Shared) (home : Home) :
  (r.box options home).kind ≠ .table ∧ (r.box options home).columns = []
    ∧ (r.box options home).Reflects options.searchTerm
  :=
  ⟨by simp [box], rfl, reflects_of_label rfl rfl⟩

end Script

namespace View

variable {statements : List Statement} {options : Options} {d : Diagram} {b : Box}

theorem reflects_of_build_tables {view : View} (hview : view = .table ∨ view = .column)
    (h : view.build statements options = .ok d) (hb : b ∈ d.boxes) :
  b.table?.isSome = true ∧ b.Reflects options.searchTerm
  := by
  rcases hview with rfl | rfl
  · apply Placement.reflects_of_mem_boxes (Placement.tableDiagram_eq_ok_iff.mp h).1 hb
  · apply Placement.reflects_of_mem_boxes (Placement.columnDiagram_eq_ok_iff.mp h).1 hb

theorem reflects_of_build_scripts {view : View} (hview : view = .script ∨ view = .hybrid)
    (h : view.build statements options = .ok d) (hb : b ∈ d.boxes) :
  b.kind ≠ .table ∧ b.columns = [] ∧ b.Reflects options.searchTerm
  := by
  rcases hview with rfl | rfl
  · cases h
    obtain ⟨s, -, rfl⟩ := List.mem_map.mp hb
    apply Script.reflects_box s
  · rw [View.build_hybrid_eq_ok_iff] at h
    obtain ⟨s, -, rfl⟩ | ⟨r, home, rfl⟩ := Script.mem_boxes_hybridDiagram h hb
    · apply Script.reflects_box s
    · apply Script.Shared.reflects_box r home

theorem reflects_of_build {view : View} (h : view.build statements options = .ok d)
    (hb : b ∈ d.boxes) :
  b.Reflects options.searchTerm
  := by
  cases view with
  | table => apply (reflects_of_build_tables (Or.inl rfl) h hb).2
  | column => apply (reflects_of_build_tables (Or.inr rfl) h hb).2
  | script => apply (reflects_of_build_scripts (Or.inl rfl) h hb).2.2
  | hybrid => apply (reflects_of_build_scripts (Or.inr rfl) h hb).2.2

theorem searchAgrees_of_build {view : View} (h : view.build statements options = .ok d) :
  d.SearchAgrees view options.searchTerm
  := by
  cases view with
  | table =>
    apply Diagram.searchAgrees_table
    exact fun _ => reflects_of_build_tables (Or.inl rfl) h
  | column =>
    apply Diagram.searchAgrees_column
    exact fun _ => reflects_of_build h
  | script =>
    apply Diagram.searchAgrees_scripts (Or.inl rfl)
    exact fun _ => reflects_of_build_scripts (Or.inl rfl) h
  | hybrid =>
    apply Diagram.searchAgrees_scripts (Or.inr rfl)
    exact fun _ => reflects_of_build_scripts (Or.inr rfl) h

/-- Where a view is drawn, it highlights the boxes that show the term that is searched for, and a
search of the view for the term agrees with that. -/
theorem build_highlights_search (view : View) (statements : List Statement) (options : Options) :
  (∃ fault, view.build statements options = .error fault
      ∧ ∃ n ∈ view.housed statements, n.drawFault? (view.catalog? options) = some fault)
    ∨ ∃ d, view.build statements options = .ok d
      ∧ (∀ b ∈ d.boxes, b.isHighlighted = true
        ↔ options.searchTerm ≠ "" ∧ b.Shows options.searchTerm)
      ∧ d.SearchAgrees view options.searchTerm
  := by
  cases hbuild : view.build statements options with
  | error fault => exact Or.inl ⟨fault, rfl, exists_housed_of_build hbuild⟩
  | ok d =>
    refine Or.inr ⟨d, rfl, ?_, searchAgrees_of_build hbuild⟩
    intro b hb
    apply (reflects_of_build hbuild hb).isHighlighted_iff_shows

end View

end Lineage
