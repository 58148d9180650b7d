import Lineage.Proofs.Failures
import Lineage.Proofs.Scoping

/-!
# Built views are whole

The boxes of a view have ids of their own and none of its links misses an end, before any pass
narrows it. For the two views of a statement this takes that no relation has the id of the output.
The views of scripts are whole whatever the names of scripts and relations are, for a script and a
relation never share an id. In the hybrid view every link joins a script and a table, and no two
links join the same boxes in the same direction.
-/

namespace Lineage

/-- Whether a link joins a script and a table, in either direction. -/
def Diagram.JoinsScriptAndTable (d : Diagram) (l : Link) : Prop :=
  ∃ script ∈ d.boxes, ∃ table ∈ d.boxes, script.kind = .script ∧ table.kind = .simpleTable
    ∧ (l.pair = (script.id, table.id) ∨ l.pair = (table.id, script.id))

namespace Script

variable {statements : List Statement} {options : Options} {d : Diagram}

/-! ### Boxes -/

theorem map_id_scripts (scripts : List Script) (options : Options) :
  (scripts.map (box options)).map Box.id = (scripts.map Script.name).map boxId
  := by
  rw [List.map_map, List.map_map]
  rfl

theorem nodup_ids_scripts (statements : List Statement) :
  (((group statements).map Script.name).map boxId).Nodup
  := (nodup_names_group statements).map fun _ _ h => boxId_inj.mp h

/-- The ids of the boxes of the hybrid view: those of the scripts and those of the relations. -/
theorem boxIds_hybridDiagram (h : hybridDiagram statements options = .ok d) :
  d.boxIds
    = ((group statements).map Script.name).map boxId
      ++ ((relations (group statements)).map Shared.name).map tableId
  := by
  obtain ⟨tables, htables, rfl⟩ := hybridDiagram_eq_ok_iff.mp h
  have hids : tables.map Box.id = (relations (group statements)).map fun r => tableId r.name :=
    map_tables htables fun _ _ => rfl
  rw [Diagram.boxIds, List.map_append, map_id_scripts, hids, List.map_map (g := tableId)]
  rfl

theorem nodup_boxIds_hybridDiagram (h : hybridDiagram statements options = .ok d) :
  d.boxIds.Nodup
  := by
  rw [boxIds_hybridDiagram h, List.nodup_append]
  refine ⟨nodup_ids_scripts statements, ?_, ?_⟩
  · apply (nodup_names_relations _).map fun _ _ h => tableId_inj.mp h
  · intro a ha b hb
    obtain ⟨script, -, rfl⟩ := List.mem_map.mp ha
    obtain ⟨name, -, rfl⟩ := List.mem_map.mp hb
    apply boxId_ne_tableId

/-- Every script has a box in the hybrid view. -/
theorem exists_script_box (h : hybridDiagram statements options = .ok d) {script : Script}
    (hscript : script ∈ group statements) :
  ∃ b ∈ d.boxes, b.kind = .script ∧ b.id = boxId script.name
  := by
  obtain ⟨tables, -, rfl⟩ := hybridDiagram_eq_ok_iff.mp h
  exact ⟨box options script, List.mem_append_left _ (List.mem_map_of_mem hscript), rfl, rfl⟩

/-! ### Links -/

theorem diagram_isWhole (statements : List Statement) (options : Options) :
  (diagram statements options).IsWhole
  := by
  have hids : (diagram statements options).boxIds
      = ((group statements).map Script.name).map boxId :=
    map_id_scripts (group statements) options
  constructor
  · rw [hids]
    apply nodup_ids_scripts
  · intro l hl
    obtain ⟨producer, hp, consumer, hc, hlink⟩ := mem_candidates.mp (Keyed.mem_of_mem_firsts hl)
    obtain ⟨hsource, htarget⟩ := Prod.mk.inj (ends_of_link? hlink).2
    apply Diagram.resolves_of_not_isAnchored (not_isAnchored_of_link? hlink)
    · rw [hsource, hids]
      apply List.mem_map_of_mem (List.mem_map_of_mem hp)
    · rw [htarget, hids]
      apply List.mem_map_of_mem (List.mem_map_of_mem hc)

/-- A link of the hybrid view is plain, and leads from a script to a relation that it writes or
from a relation to a script that reads it. -/
theorem mem_hybridLinks {script : Script} {l : Link} :
  l ∈ hybridLinks script
    ↔ (∃ name ∈ script.access.writtenNames, flowLink (boxId script.name) (tableId name) = l)
      ∨ ∃ name ∈ script.access.readNames, flowLink (tableId name) (boxId script.name) = l
  := by
  simp [hybridLinks]

/-- A link of the hybrid view leads from a script to a table or from a table to a script. -/
theorem ends_of_mem_hybrid (h : hybridDiagram statements options = .ok d) {l : Link}
    (hl : l ∈ d.links) :
  ∃ script ∈ d.boxes, ∃ table ∈ d.boxes, script.kind = .script ∧ table.kind = .simpleTable
    ∧ ∃ s t, script.id = boxId s ∧ table.id = tableId t
      ∧ (l = flowLink (boxId s) (tableId t) ∨ l = flowLink (tableId t) (boxId s))
  := by
  obtain ⟨tables, -, rfl⟩ := hybridDiagram_eq_ok_iff.mp h
  obtain ⟨script, hscript, hlink⟩ := List.mem_flatMap.mp hl
  obtain ⟨b, hb, hkind, hid⟩ := exists_script_box h hscript
  rcases mem_hybridLinks.mp hlink with ⟨name, hname, rfl⟩ | ⟨name, hname, rfl⟩
  · obtain ⟨u, hu, -, rfl⟩ := mem_writtenNames.mp hname
    obtain ⟨t, ht, hsimple, htid⟩ := (exists_table_iff h).mpr ⟨script, hscript, u, hu, rfl⟩
    exact ⟨b, hb, t, ht, hkind, hsimple, _, _, hid, htid, Or.inl rfl⟩
  · obtain ⟨u, hu, -, rfl⟩ := mem_readNames.mp hname
    obtain ⟨t, ht, hsimple, htid⟩ := (exists_table_iff h).mpr ⟨script, hscript, u, hu, rfl⟩
    exact ⟨b, hb, t, ht, hkind, hsimple, _, _, hid, htid, Or.inr rfl⟩

theorem joinsScriptAndTable_of_mem (h : hybridDiagram statements options = .ok d) {l : Link}
    (hl : l ∈ d.links) :
  d.JoinsScriptAndTable l
  := by
  obtain ⟨script, hscript, table, htable, hkind, hkind', s, t, hs, ht, hends⟩ :=
    ends_of_mem_hybrid h hl
  refine ⟨script, hscript, table, htable, hkind, hkind', ?_⟩
  rw [hs, ht]
  rcases hends with rfl | rfl
  · exact Or.inl rfl
  · exact Or.inr rfl

theorem hybridDiagram_isWhole (h : hybridDiagram statements options = .ok d) : d.IsWhole := by
  refine ⟨nodup_boxIds_hybridDiagram h, ?_⟩
  intro l hl
  obtain ⟨script, hscript, table, htable, -, -, s, t, hs, ht, hends⟩ := ends_of_mem_hybrid h hl
  have hs' : boxId s ∈ d.boxIds := hs ▸ List.mem_map_of_mem hscript
  have ht' : tableId t ∈ d.boxIds := ht ▸ List.mem_map_of_mem htable
  rcases hends with rfl | rfl
  · apply Diagram.resolves_of_not_isAnchored rfl hs' ht'
  · apply Diagram.resolves_of_not_isAnchored rfl ht' hs'

/-- A script has one link to each relation that it writes and one from each that it reads. -/
theorem nodup_pairs_hybridLinks (script : Script) : ((hybridLinks script).map Link.pair).Nodup := by
  rw [hybridLinks, List.map_append, List.map_map, List.map_map, List.nodup_append]
  refine ⟨?_, ?_, ?_⟩
  · apply (Keyed.nodup_distinct _).map
    intro a b h
    apply tableId_inj.mp (Prod.mk.inj h).2
  · apply (Keyed.nodup_distinct _).map
    intro a b h
    apply tableId_inj.mp (Prod.mk.inj h).1
  · intro p hp q hq hpq
    obtain ⟨a, -, rfl⟩ := List.mem_map.mp hp
    obtain ⟨b, -, rfl⟩ := List.mem_map.mp hq
    apply boxId_ne_tableId _ _ (Prod.mk.inj hpq).1

/-- No two links of the hybrid view join the same boxes in the same direction. -/
theorem nodup_pairs_hybridDiagram (h : hybridDiagram statements options = .ok d) :
  d.pairs.Nodup
  := by
  obtain ⟨tables, -, rfl⟩ := hybridDiagram_eq_ok_iff.mp h
  rw [Diagram.pairs, List.map_flatMap, List.nodup_flatMap]
  refine ⟨fun script _ => nodup_pairs_hybridLinks script, ?_⟩
  have hnames : (group statements).Pairwise fun s t => s.name ≠ t.name :=
    List.pairwise_map.mp (nodup_names_group statements)
  apply hnames.imp
  intro s t hne pair hs ht
  -- the script of a link is told by the pair, and only by that end of it that is no table
  obtain ⟨l, hl, rfl⟩ := List.mem_map.mp hs
  obtain ⟨m, hm, hpair⟩ := List.mem_map.mp ht
  obtain ⟨hsource, htarget⟩ := Prod.mk.inj hpair
  rcases mem_hybridLinks.mp hl with ⟨a, -, rfl⟩ | ⟨a, -, rfl⟩ <;>
    rcases mem_hybridLinks.mp hm with ⟨b, -, rfl⟩ | ⟨b, -, rfl⟩
  · apply hne (boxId_inj.mp hsource).symm
  · apply boxId_ne_tableId _ _ hsource.symm
  · apply boxId_ne_tableId _ _ hsource
  · apply hne (boxId_inj.mp htarget).symm

end Script

namespace View

/-- A view fails to be built only as one of its relations cannot be drawn. Otherwise its boxes have
ids of their own and dropping loose links leaves it as it is, provided that no relation of a
statement has the id of the output. In the hybrid view every link joins a script and a table, and no
two links join the same boxes in the same direction. -/
theorem build_isWhole (view : View) (statements : List Statement) (options : Options)
    (houtput : view = .table ∨ view = .column →
      (Placement.ofStatements statements).orphans ≠ [] →
        ∀ n ∈ (Statement.merge statements).nodes, n.kind.isRelation = true →
          n.id ≠ (Placement.ofStatements statements).outputId) :
  (∃ fault, view.build statements options = .error fault
      ∧ ∃ n ∈ view.housed statements, n.drawFault? (view.catalog? options) = some fault)
    ∨ ∃ d, view.build statements options = .ok d
      ∧ d.boxIds.Nodup
      ∧ (∀ l ∈ d.links, d.resolves l = true)
      ∧ d.prune = d
      ∧ (view = .hybrid → (∀ l ∈ d.links, d.JoinsScriptAndTable l) ∧ d.pairs.Nodup)
  := by
  cases hbuild : view.build statements options with
  | error fault => exact Or.inl ⟨fault, rfl, exists_housed_of_build hbuild⟩
  | ok d =>
    have hwhole : d.IsWhole := by
      cases view with
      | table => apply Placement.tableDiagram_isWhole (houtput (Or.inl rfl)) hbuild
      | column => apply Placement.columnDiagram_isWhole (houtput (Or.inr rfl)) hbuild
      | script =>
        cases hbuild
        apply Script.diagram_isWhole
      | hybrid => apply Script.hybridDiagram_isWhole (build_hybrid_eq_ok_iff.mp hbuild)
    refine Or.inr ⟨d, rfl, hwhole.nodup, hwhole.resolves, Diagram.prune_of_isWhole hwhole, ?_⟩
    rintro rfl
    rw [build_hybrid_eq_ok_iff] at hbuild
    constructor
    · intro l hl
      apply Script.joinsScriptAndTable_of_mem hbuild hl
    · apply Script.nodup_pairs_hybridDiagram hbuild

/-- The view of columns draws the output apart from the relations and fixes its links to columns,
and the hybrid view has two links between `>b` and `t`, one in each direction. -/
theorem build_isWhole_divided :
  (∃ d, View.column.build divided {} = .ok d
    ∧ d.boxIds = ["A", "B", "C", "virtual:output"]
    ∧ d.links.map Link.sourceHandle = [some "A.x", some "B.x", some "A.x", some "C.y"]
    ∧ d.prune = d)
  ∧ ∃ d, View.hybrid.build reloaded {} = .ok d
    ∧ ("script:>b", "table:t") ∈ d.pairs ∧ ("table:t", "script:>b") ∈ d.pairs
    ∧ d.pairs.Nodup
  := by
  constructor
  · obtain ⟨_, herror, -⟩ | ⟨d, hd, -, -, hprune, -⟩ :=
      build_isWhole .column divided {} (by decide)
    · cases herror
    · refine ⟨d, hd, ?_, ?_, hprune⟩
      · cases hd
        rfl
      · cases hd
        rfl
  · obtain ⟨_, herror, -⟩ | ⟨d, hd, -, -, -, hhybrid⟩ :=
      build_isWhole .hybrid reloaded {} (by decide)
    · cases herror
    · refine ⟨d, hd, ?_, ?_, (hhybrid rfl).2⟩
      · cases hd
        decide
      · cases hd
        decide

end View

end Lineage
