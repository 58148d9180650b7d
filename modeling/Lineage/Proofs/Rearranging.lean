import Lineage.Proofs.BuiltViews
import Lineage.Proofs.Keyed

/-!
# Statements in another order

A script has the statements of its name, so if the statements come in another order, there are the
same scripts, each with its statements in another order. What a script reads and writes is then the
same but for the order, and so are the boxes and links of the hybrid view. The order matters to what
the view says of a table: that is taken from the last use that writes the table, or else from the
first use. As the scripts are gone through one after the other, the last use that writes is one of
the last script that writes. If it can be told from some uses of a table where it lives, but not
from others, then the order matters to whether the view can be drawn at all.
-/

namespace Lineage

/-- Whether a statement writes a stored relation of a name. -/
def Statement.writesName (s : Statement) (name : String) : Bool :=
  s.stored.any fun n => s.writes n.id && n.sharedName = name

/-! ### Scripts -/

namespace Script

variable {statements statements' : List Statement}

theorem name_joined (old new : Script) (_ : old.name = new.name) :
  (⟨old.name, old.statements ++ new.statements⟩ : Script).name = old.name
  := rfl

/-- Scripts are joined to a script of all their statements. -/
theorem statements_joined? {scripts : List Script} {s : Script}
    (h : Keyed.joined? (fun old new : Script => ⟨old.name, old.statements ++ new.statements⟩)
      scripts = some s) :
  s.statements = scripts.flatMap Script.statements
  := by
  apply Keyed.joined?_induction (motive := fun scripts s =>
    s.statements = scripts.flatMap Script.statements) _ _ h
  · intro t
    simp
  · intro scripts t joined ih
    simp [ih]

/-- A script has the statements of its name, in their own order. -/
theorem statements_of_mem_group {s : Script} (h : s ∈ group statements) :
  s.statements = statements.filter (nameOf · = s.name)
  := by
  have hfind : (group statements).find? (Script.name · = s.name) = some s :=
    (Keyed.find?_eq_some_iff_mem (nodup_names_group statements)).mpr ⟨h, rfl⟩
  rw [group, Keyed.find?_collect name_joined, List.filter_map] at hfind
  rw [statements_joined? hfind, List.flatMap_map, List.flatMap_singleton']
  rfl

theorem names_group (statements : List Statement) :
  (group statements).map Script.name = (statements.map nameOf).eraseDups
  := by
  rw [group, Keyed.keys_collect name_joined, List.map_map]
  rfl

/-- There is a script for every name, in the order in which they first come, with the statements of
the name. -/
theorem group_eq (statements : List Statement) :
  group statements
    = (statements.map nameOf).eraseDups.map fun name =>
      ⟨name, statements.filter (nameOf · = name)⟩
  := by
  rw [← names_group, List.map_map]
  conv_lhs => rw [← List.map_id (group statements)]
  apply List.map_congr_left
  intro s hs
  simp [← statements_of_mem_group hs]

/-- Every statement is in a script. -/
theorem exists_mem_group {t : Statement} (ht : t ∈ statements) :
  ∃ s ∈ group statements, s.name = nameOf t ∧ t ∈ s.statements
  := by
  rw [group_eq]
  refine ⟨⟨nameOf t, statements.filter (nameOf · = nameOf t)⟩, ?_, rfl, by simpa using ht⟩
  exact List.mem_map_of_mem (List.mem_eraseDups.mpr (List.mem_map_of_mem ht))

section Order

variable (hperm : statements.Perm statements')

include hperm

/-- If the statements come in another order, those of a script come in another order. -/
theorem statements_perm {s t : Script} (hs : s ∈ group statements) (ht : t ∈ group statements')
    (hname : t.name = s.name) :
  s.statements.Perm t.statements
  := by
  rw [statements_of_mem_group hs, statements_of_mem_group ht, hname]
  exact hperm.filter _

theorem exists_mem_group_of_perm {s : Script} (hs : s ∈ group statements) :
  ∃ t ∈ group statements', t.name = s.name ∧ s.statements.Perm t.statements
  := by
  obtain ⟨u, hu, hname⟩ := exists_nameOf_of_mem_group hs
  obtain ⟨t, ht, htname, -⟩ := exists_mem_group (hperm.mem_iff.mp hu)
  rw [hname] at htname
  exact ⟨t, ht, htname, statements_perm hperm hs ht htname⟩

theorem names_group_perm :
  ((group statements).map Script.name).Perm ((group statements').map Script.name)
  := by
  rw [names_group, names_group, ← Keyed.distinct_eq_eraseDups, ← Keyed.distinct_eq_eraseDups]
  exact Keyed.distinct_perm (hperm.map _)

end Order

/-! ### What scripts use -/

section Uses

variable {s t : Script} (h : s.statements.Perm t.statements)

include h

theorem uses_perm : s.uses.Perm t.uses :=
  h.flatMap_right _

theorem read_perm : s.read.Perm t.read :=
  ((uses_perm h).filter _).map _

theorem written_perm : s.written.Perm t.written :=
  ((uses_perm h).filter _).map _

/-- The links of a script are the same in some order. -/
theorem hybridLinks_perm (hname : t.name = s.name) : (hybridLinks s).Perm (hybridLinks t) := by
  unfold hybridLinks
  rw [hname]
  apply List.Perm.append
  · exact (Keyed.distinct_perm ((written_perm h).map _)).map _
  · exact (Keyed.distinct_perm ((read_perm h).map _)).map _

end Uses

/-! ### Writers -/

/-- Of the uses that are joined, the last one that writes tells the writer. -/
theorem writer_joined? {as : List Shared} {r : Shared}
    (h : Keyed.joined? Shared.join as = some r) :
  r.writer = (as.filterMap Shared.writer).getLast?
  := by
  apply Keyed.joined?_induction (motive := fun as r =>
    r.writer = (as.filterMap Shared.writer).getLast?) _ _ h
  · intro a
    cases hwriter : a.writer <;> simp [hwriter]
  · intro as a r ih
    rw [List.filterMap_append, List.getLast?_append, ← ih]
    cases hwriter : a.writer <;> simp [hwriter, Shared.join]

/-- If a list has only copies of one item for each item of another list, its last item is that of
the last item for which there are any. -/
theorem getLast?_flatMap {α β : Type} {f : α → List β} {g : α → β} {p : α → Bool} {as : List α}
    (hf : ∀ a ∈ as, ∀ b ∈ f a, b = g a) (hp : ∀ a ∈ as, f a ≠ [] ↔ p a = true) :
  (as.flatMap f).getLast? = ((as.filter p).map g).getLast?
  := by
  induction as using List.reverseRecOn with
  | nil => rfl
  | append_singleton as a ih =>
    rw [List.flatMap_append, List.getLast?_append, List.filter_append, List.map_append,
      List.getLast?_append,
      ih (fun b hb => hf b (by simp [hb])) (fun b hb => hp b (by simp [hb]))]
    congr 1
    by_cases ha : p a = true
    · have hlast := List.getLast?_eq_some_getLast ((hp a (by simp)).mpr ha)
      simp [ha, hlast, hf a (by simp) _ (List.getLast_mem _)]
    · have hnil : f a = [] := by simpa using mt (hp a (by simp)).mp ha
      simp [ha, hnil]

theorem Shared.writer_ofUse {script : String} {u : Statement.Use} {x : String} :
  (Shared.ofUse script u).writer = some x ↔ u.isWritten = true ∧ script = x
  := by
  simp [Shared.ofUse]

/-- A relation comes from the last of the scripts that write it. -/
theorem writer_of_mem_relations {scripts : List Script} {r : Shared} (h : r ∈ relations scripts) :
  r.writer
    = ((scripts.filter fun s => s.access.writtenNames.contains r.name).map Script.name).getLast?
  := by
  have hfind : (relations scripts).find? (Shared.name · = r.name) = some r :=
    (Keyed.find?_eq_some_iff_mem (nodup_names_relations scripts)).mpr ⟨h, rfl⟩
  -- a script is listed once for each of its uses that write the relation
  have hmem : ∀ (s : Script) (x : String),
      x ∈ ((s.uses.map (Shared.ofUse s.name)).filter (Shared.name · = r.name)).filterMap
          Shared.writer
        ↔ r.name ∈ s.access.writtenNames ∧ x = s.name := by
    intro s x
    simp only [List.mem_filterMap, List.mem_filter, List.mem_map, mem_writtenNames]
    constructor
    · rintro ⟨_, ⟨⟨u, hu, rfl⟩, hname⟩, hwriter⟩
      obtain ⟨hwritten, hx⟩ := Shared.writer_ofUse.mp hwriter
      exact ⟨⟨u, hu, hwritten, of_decide_eq_true hname⟩, hx.symm⟩
    · rintro ⟨⟨u, hu, hwritten, hname⟩, hx⟩
      exact ⟨_, ⟨⟨u, hu, rfl⟩, decide_eq_true hname⟩,
        Shared.writer_ofUse.mpr ⟨hwritten, hx.symm⟩⟩
  rw [relations, Keyed.find?_collect Shared.name_join] at hfind
  rw [writer_joined? hfind, List.filter_flatMap, List.filterMap_flatMap]
  apply getLast?_flatMap
  · intro s _ x hx
    exact ((hmem s x).mp hx).2
  · intro s _
    rw [List.contains_iff_mem]
    constructor
    · intro hne
      obtain ⟨x, hx⟩ := List.exists_mem_of_ne_nil _ hne
      exact ((hmem s x).mp hx).1
    · intro hwritten
      exact List.ne_nil_of_mem ((hmem s s.name).mpr ⟨hwritten, rfl⟩)

/-- The scripts with a statement that writes a relation, in the order in which they first come. -/
def writers (statements : List Statement) (relation : String) : List String :=
  (statements.map nameOf).eraseDups.filter fun script =>
    statements.any fun s => nameOf s = script && s.writesName relation

theorem mem_writtenNames_iff_writesName {s : Script} {name : String} :
  name ∈ s.access.writtenNames ↔ ∃ t ∈ s.statements, t.writesName name = true
  := by
  simp only [mem_writtenNames, uses, List.mem_flatMap, Statement.uses, List.mem_map,
    Statement.writesName, List.any_eq_true]
  grind

theorem map_name_filter_group (statements : List Statement) (relation : String) :
  ((group statements).filter fun s => s.access.writtenNames.contains relation).map Script.name
    = writers statements relation
  := by
  rw [group_eq, List.filter_map, List.map_map, writers]
  conv_rhs => rw [← List.map_id (List.filter _ _)]
  congr 1
  apply List.filter_congr
  intro name _
  rw [Bool.eq_iff_iff]
  simp [mem_writtenNames_iff_writesName, and_assoc]

/-! ### Relations -/

/-- The names of the stored relations of some statements. -/
def relationNames (statements : List Statement) : List String :=
  ((statements.flatMap Statement.stored).map Node.sharedName).eraseDups

/-- The relations that scripts use are the stored relations of the statements. -/
theorem mem_names_relations_group {name : String} :
  name ∈ (relations (group statements)).map Shared.name ↔ name ∈ relationNames statements
  := by
  rw [mem_names_relations, relationNames, List.mem_eraseDups, List.mem_map]
  constructor
  · rintro ⟨s, hs, u, hu, hname⟩
    obtain ⟨t, ht, hu⟩ := List.mem_flatMap.mp hu
    obtain ⟨n, hn, rfl⟩ := List.mem_map.mp hu
    exact ⟨n, List.mem_flatMap.mpr ⟨t, mem_of_mem_group hs ht, hn⟩, hname⟩
  · rintro ⟨n, hn, hname⟩
    obtain ⟨t, ht, hn⟩ := List.mem_flatMap.mp hn
    obtain ⟨s, hs, -, hts⟩ := exists_mem_group ht
    exact ⟨s, hs, _, List.mem_flatMap.mpr ⟨t, hts, List.mem_map_of_mem hn⟩, hname⟩

theorem names_relations_perm (statements : List Statement) :
  ((relations (group statements)).map Shared.name).Perm (relationNames statements)
  := by
  have hnodup : (relationNames statements).Nodup := by
    rw [relationNames, ← Keyed.distinct_eq_eraseDups]
    apply Keyed.nodup_distinct
  rw [List.perm_ext_iff_of_nodup (nodup_names_relations _) hnodup]
  intro name
  exact mem_names_relations_group

theorem relationNames_perm (h : statements.Perm statements') :
  (relationNames statements).Perm (relationNames statements')
  := by
  rw [relationNames, relationNames, ← Keyed.distinct_eq_eraseDups, ← Keyed.distinct_eq_eraseDups]
  exact Keyed.distinct_perm ((h.flatMap_right _).map _)

end Script

/-! ### The hybrid view -/

/-- The tables of a diagram, each with the script that it comes from. -/
def Diagram.sources (d : Diagram) : List (String × Option String) :=
  d.boxes.filterMap fun b => b.table?.map fun face => (b.id, face.sourceName)

/-- Whether two scripts have equally many statements and name the same tables, in some order. Of
tables nothing is asked. -/
def Face.SameUses : Face → Face → Prop
  | .script f, .script g =>
    f.statementCount = g.statementCount
      ∧ f.tablesRead.Perm g.tablesRead ∧ f.tablesWritten.Perm g.tablesWritten
  | .table _, .table _ => True
  | _, _ => False

/-- Whether two diagrams have boxes of the same ids and the same links, in some order, and scripts
with the same uses. -/
structure Diagram.SameUpToOrder (d e : Diagram) : Prop where
  boxIds : d.boxIds.Perm e.boxIds
  links : d.links.Perm e.links
  scripts : ∀ b ∈ d.boxes, ∀ c ∈ e.boxes, b.id = c.id → b.face.SameUses c.face

namespace Script

variable {statements statements' : List Statement} {options : Options} {d d' : Diagram}

/-- The tables of the hybrid view are the stored relations, each from the last of its writers. -/
theorem sources_hybridDiagram (h : hybridDiagram statements options = .ok d) :
  d.sources.Perm
    ((relationNames statements).map fun name => (tableId name, (writers statements name).getLast?))
  := by
  obtain ⟨tables, htables, rfl⟩ := hybridDiagram_eq_ok_iff.mp h
  let source? := fun b : Box => b.table?.map fun face => (b.id, face.sourceName)
  have hscripts : ((group statements).map (box options)).filterMap source? = [] := by
    simp [source?, box, Box.table?]
  have hmap : tables.map source?
      = (relations (group statements)).map fun r => some (tableId r.name, r.writer) :=
    map_tables htables fun _ _ => rfl
  have hwriter : ∀ r ∈ relations (group statements),
      (tableId r.name, r.writer) = (tableId r.name, (writers statements r.name).getLast?) := by
    intro r hr
    rw [writer_of_mem_relations hr, map_name_filter_group]
  have hsources : tables.filterMap source?
      = ((relations (group statements)).map Shared.name).map fun name =>
        (tableId name, (writers statements name).getLast?) := by
    calc tables.filterMap source?
      _ = (tables.map source?).filterMap id := by rw [List.filterMap_map]; rfl
      _ = (relations (group statements)).map fun r => (tableId r.name, r.writer) := by
        rw [hmap, List.filterMap_map, ← List.filterMap_eq_map]
        rfl
      _ = _ := by
        rw [List.map_map]
        exact List.map_congr_left hwriter
  rw [Diagram.sources, List.filterMap_append, hscripts, hsources]
  exact (names_relations_perm statements).map _

theorem links_hybridDiagram_subset (hperm : statements.Perm statements')
    (h : hybridDiagram statements options = .ok d)
    (h' : hybridDiagram statements' options = .ok d') :
  d.links ⊆ d'.links
  := by
  rw [links_hybridDiagram h, links_hybridDiagram h']
  intro l hl
  obtain ⟨s, hs, hl⟩ := List.mem_flatMap.mp hl
  obtain ⟨t, ht, hname, hstatements⟩ := exists_mem_group_of_perm hperm hs
  exact List.mem_flatMap.mpr ⟨t, ht, (hybridLinks_perm hstatements hname).mem_iff.mp hl⟩

/-- In which order the statements come only matters to the order in which things are drawn, and to
what is said of a table. -/
theorem hybridDiagram_perm (hperm : statements.Perm statements')
    (h : hybridDiagram statements options = .ok d)
    (h' : hybridDiagram statements' options = .ok d') :
  d.SameUpToOrder d'
  where
  boxIds := by
    have hnames : ((relations (group statements)).map Shared.name).Perm
        ((relations (group statements')).map Shared.name) :=
      ((names_relations_perm statements).trans (relationNames_perm hperm)).trans
        (names_relations_perm statements').symm
    rw [boxIds_hybridDiagram h, boxIds_hybridDiagram h']
    exact ((names_group_perm hperm).map _).append (hnames.map _)
  links := by
    have hnodup : d.links.Nodup := List.Nodup.of_map _ (nodup_pairs_hybridDiagram h)
    have hnodup' : d'.links.Nodup := List.Nodup.of_map _ (nodup_pairs_hybridDiagram h')
    rw [List.perm_ext_iff_of_nodup hnodup hnodup']
    intro l
    constructor
    · apply links_hybridDiagram_subset hperm h h'
    · apply links_hybridDiagram_subset hperm.symm h' h
  scripts := by
    intro b hb c hc hid
    rcases mem_boxes_hybridDiagram h hb with ⟨s, hs, rfl⟩ | ⟨r, home, rfl⟩ <;>
      rcases mem_boxes_hybridDiagram h' hc with ⟨t, ht, rfl⟩ | ⟨q, home', rfl⟩
    · have hstatements := statements_perm hperm hs ht (boxId_inj.mp hid).symm
      refine ⟨?_, ?_, ?_⟩
      · exact congrArg Int.ofNat hstatements.length_eq
      · exact Keyed.distinct_perm ((read_perm hstatements).map _)
      · exact Keyed.distinct_perm ((written_perm hstatements).map _)
    · exact absurd hid (boxId_ne_tableId _ _)
    · exact absurd hid.symm (boxId_ne_tableId _ _)
    · trivial

end Script

namespace View

/-- If it can be told where the stored relations live, the hybrid view is drawn for the statements
in any order. Where it is drawn, it has one table for each of their names, from the last of the
scripts that write it, if any does; and where it is drawn for another order, too, it has the same
boxes and links there, and the same uses of scripts. -/
theorem build_hybrid_rearranged {statements statements' : List Statement}
    (hperm : statements.Perm statements') (options : Options) :
  ((∀ s ∈ statements, ∀ n ∈ s.stored, n.fault? = none) →
    ∃ d d', View.hybrid.build statements options = .ok d
      ∧ View.hybrid.build statements' options = .ok d')
  ∧ ∀ d, View.hybrid.build statements options = .ok d →
    d.sources.Perm ((Script.relationNames statements).map fun name =>
      (Script.tableId name, (Script.writers statements name).getLast?))
    ∧ ∀ d', View.hybrid.build statements' options = .ok d' → d.SameUpToOrder d'
  := by
  constructor
  · intro hhomes
    have hdrawn : ∀ ts : List Statement, ts.Perm statements →
        ∃ d, View.hybrid.build ts options = .ok d := by
      intro ts hts
      cases hbuild : Script.hybridDiagram ts options with
      | ok d => exact ⟨d, build_hybrid_eq_ok_iff.mpr hbuild⟩
      | error fault =>
        obtain ⟨s, hs, n, hn, hstored, hfault⟩ := Script.exists_fault_of_hybridDiagram hbuild
        have hnone := hhomes s (hts.mem_iff.mp hs) n (List.mem_filter.mpr ⟨hn, hstored⟩)
        rw [Node.fault?_eq_some_iff.mpr hfault] at hnone
        cases hnone
    obtain ⟨d, hd⟩ := hdrawn statements (List.Perm.refl _)
    obtain ⟨d', hd'⟩ := hdrawn statements' hperm.symm
    exact ⟨d, d', hd, hd'⟩
  · intro d hd
    rw [build_hybrid_eq_ok_iff] at hd
    refine ⟨Script.sources_hybridDiagram hd, ?_⟩
    intro d' hd'
    rw [build_hybrid_eq_ok_iff] at hd'
    exact Script.hybridDiagram_perm hperm hd hd'

/-- Whichever of the two scripts that write `t` comes last is the one that it comes from. -/
theorem build_hybrid_rearranged_reloaded :
  reloaded.Perm reloaded.reverse
  ∧ ∃ d d', View.hybrid.build reloaded {} = .ok d ∧ View.hybrid.build reloaded.reverse {} = .ok d'
    ∧ d.sources = [("table:raw", none), ("table:t", some ">b"), ("table:v", some ">b")]
    ∧ d'.sources = [("table:t", some "a-"), ("table:v", some ">b"), ("table:raw", none)]
    ∧ d.SameUpToOrder d'
  := by
  have hperm : reloaded.Perm reloaded.reverse := (List.reverse_perm reloaded).symm
  obtain ⟨hdrawn, hsame⟩ := build_hybrid_rearranged hperm {}
  obtain ⟨d, d', hd, hd'⟩ := hdrawn (by decide)
  refine ⟨hperm, d, d', hd, hd', ?_, ?_, (hsame d hd).2 d' hd'⟩
  · cases hd
    rfl
  · cases hd'
    rfl

/-- A query in some script of a table with a name that cannot be taken apart, in some schema. -/
def mentioning (script : String) (schema : Option String) : Statement :=
  { sourceName := some script
    nodes :=
      [{ id := "t", kind := .table, label := "t", qualifiedName := some "a-b.c.d.e"
         schemaName := schema }] }

/-- What is said of the table is taken from the script that comes first. If that one does not tell
the schema, the view cannot be drawn. -/
theorem build_hybrid_fails_rearranged :
  [mentioning "a" (some "d"), mentioning "b" none].Perm
    [mentioning "b" none, mentioning "a" (some "d")]
  ∧ (View.hybrid.build [mentioning "a" (some "d"), mentioning "b" none] {}).map Diagram.boxIds
    = .ok ["script:a", "script:b", "table:a-b.c.d.e"]
  ∧ View.hybrid.build [mentioning "b" none, mentioning "a" (some "d")] {}
    = .error (.name .tooManyPieces)
  := by
  refine ⟨List.Perm.swap _ _ _, by decide, ?_⟩
  rw [build_eq_error_iff]
  decide +kernel

end View

end Lineage
