import Lineage.Proofs.Placement
import Lineage.View.Render

/-!
# Links between scripts

A script is linked to another one if it writes a table that the other one reads. The hybrid view
has the tables as well, with a link from each script to what it writes and from what it reads to
the script, so one script is linked to another exactly if the hybrid view leads from the one to the
other by way of a table. Links are told apart by the names of their scripts with an arrow between
them, so this takes names without an arrow.
-/

namespace Lineage

namespace Script

/-! ### Ids -/

/-- Two texts with a word between them are told apart if the word first comes after the first
text. -/
theorem separated_inj {word p q c d : List Char} (hp : ¬word <:+: p ++ word.dropLast)
    (hq : ¬word <:+: q ++ word.dropLast) (h : p ++ (word ++ c) = q ++ (word ++ d)) :
  p = q ∧ c = d
  := by
  -- if one text were shorter, the word after it would begin within the other one
  have hshort : ∀ {p q c d : List Char}, ¬word <:+: q ++ word.dropLast →
      p ++ (word ++ c) = q ++ (word ++ d) → ¬p.length < q.length := by
    intro p q c d hq h hlt
    apply hq
    have hp : p ++ word <+: q ++ word ++ d := by
      rw [List.append_assoc, ← h, ← List.append_assoc]
      apply List.prefix_append
    have hprefix : p ++ word <+: q ++ word.dropLast := by
      apply List.prefix_of_prefix_length_le hp
      · rw [List.append_assoc]
        apply List.prefix_append_right_inj q |>.mpr
        exact (List.dropLast_prefix word).trans (List.prefix_append _ _)
      · simp only [List.length_append, List.length_dropLast]
        omega
    exact (List.suffix_append p word).isInfix.trans hprefix.isInfix
  have hlength : p.length = q.length :=
    Nat.le_antisymm (Nat.not_lt.mp (hshort hp h.symm)) (Nat.not_lt.mp (hshort hq h))
  obtain ⟨hpq, hcd⟩ := List.append_inj h hlength
  exact ⟨hpq, List.append_cancel_left hcd⟩

/-- A word none of whose ends it begins with comes after a text without the word, not across its
end. -/
theorem not_infix_append_dropLast {word p : List Char}
    (hword : ∀ k < word.length, 0 < k → ¬word.drop k <+: word) (hp : ¬word <:+: p) :
  ¬word <:+: p ++ word.dropLast
  := by
  have hpos : 0 < word.length := by
    apply List.length_pos_of_ne_nil
    rintro rfl
    exact hp List.nil_infix
  rintro ⟨a, b, hab⟩
  rw [List.append_assoc, List.append_eq_append_iff] at hab
  rcases hab with ⟨x, rfl, hx⟩ | ⟨x, -, hx⟩
  · rw [List.append_eq_append_iff] at hx
    rcases hx with ⟨y, rfl, -⟩ | ⟨y, hxy, hy⟩
    · exact hp ⟨a, y, by simp⟩
    · -- the word begins with `x`, at the end of the text, and goes on with `y`, with which it begins
      have hlength : word.length = x.length + y.length := by simp [hxy]
      have hdropLast : word.length - 1 = y.length + b.length := by
        simpa using congrArg List.length hy
      have hdrop : word.drop x.length = y := by simp [hxy]
      have hne : y ≠ [] := by
        rintro rfl
        exact hp ⟨a, [], by simp [hxy]⟩
      have hypos : 0 < y.length := List.length_pos_of_ne_nil hne
      apply hword x.length (by omega) (by omega)
      rw [hdrop]
      apply List.IsPrefix.trans _ (List.dropLast_prefix word)
      rw [hy]
      apply List.prefix_append
  · have hlength := congrArg List.length hx
    simp only [List.length_append, List.length_dropLast] at hlength
    omega

theorem boxId_eq (name : String) : boxId name = "script:" ++ name := rfl

theorem tableId_eq (name : String) : tableId name = "table:" ++ name := rfl

@[simp] theorem boxId_inj {a b : String} : boxId a = boxId b ↔ a = b := by
  simp [boxId_eq]

@[simp] theorem tableId_inj {a b : String} : tableId a = tableId b ↔ a = b := by
  simp [tableId_eq]

@[simp] theorem boxId_ne_tableId (a b : String) : boxId a ≠ tableId b := by
  intro h
  have hlist := congrArg String.toList h
  simp [boxId_eq, tableId_eq] at hlist

/-! ### Scripts -/

variable {statements : List Statement}

theorem nodup_names_group (statements : List Statement) :
  ((group statements).map Script.name).Nodup
  := by
  apply Keyed.nodup_keys_collect
  intro old new _
  rfl

theorem exists_nameOf_of_mem_group {s : Script} (h : s ∈ group statements) :
  ∃ t ∈ statements, nameOf t = s.name
  := by
  have hjoin : ∀ old new : Script, old.name = new.name →
      (⟨old.name, old.statements ++ new.statements⟩ : Script).name = old.name := by
    intro old new _
    rfl
  have hname : s.name ∈ (group statements).map Script.name := List.mem_map_of_mem h
  rw [group, Keyed.mem_keys_collect hjoin] at hname
  simpa using hname

/-- A script has statements of those that were grouped. -/
theorem mem_of_mem_group {s : Script} (h : s ∈ group statements) {t : Statement}
    (ht : t ∈ s.statements) :
  t ∈ statements
  := by
  have hall : ∀ s ∈ group statements, ∀ t ∈ s.statements, t ∈ statements := by
    apply Keyed.forall_mem_collect
    · intro s hs t ht
      obtain ⟨u, hu, rfl⟩ := List.mem_map.mp hs
      obtain rfl : t = u := by simpa using ht
      exact hu
    · intro old new hold hnew t ht
      rcases List.mem_append.mp ht with ht | ht
      · exact hold t ht
      · exact hnew t ht
  exact hall s h t ht

theorem mem_writtenNames {s : Script} {name : String} :
  name ∈ s.access.writtenNames ↔ ∃ u ∈ s.uses, u.isWritten = true ∧ u.node.sharedName = name
  := by
  simp [access, written, and_assoc]

theorem mem_readNames {s : Script} {name : String} :
  name ∈ s.access.readNames ↔ ∃ u ∈ s.uses, u.isRead = true ∧ u.node.sharedName = name
  := by
  simp [access, read, and_assoc]

/-! ### Links between scripts -/

theorem exists_mem_shared_iff {producer consumer : Script} :
  shared producer consumer ≠ []
    ↔ ∃ name, name ∈ producer.access.writtenNames ∧ name ∈ consumer.access.readNames
  := by
  simp [shared, List.filter_eq_nil_iff]

/-- A link tells which scripts it joins. -/
theorem ends_of_link? {producer consumer : Script} {l : Link}
    (h : link? producer consumer = some l) :
  l.id = s!"{producer.name}->{consumer.name}"
    ∧ l.pair = (boxId producer.name, boxId consumer.name)
  := by
  unfold link? at h
  split at h
  · cases h
  · cases h
    exact ⟨rfl, rfl⟩

theorem not_isAnchored_of_link? {producer consumer : Script} {l : Link}
    (h : link? producer consumer = some l) :
  l.isAnchored = false
  := by
  unfold link? at h
  split at h
  · cases h
  · cases h
    rfl

/-- A script is linked to another one if it writes something that the other one reads. -/
theorem exists_link?_iff {producer consumer : Script} :
  (∃ l, link? producer consumer = some l)
    ↔ producer.name ≠ consumer.name
      ∧ ∃ name, name ∈ producer.access.writtenNames ∧ name ∈ consumer.access.readNames
  := by
  rw [← exists_mem_shared_iff]
  unfold link?
  split
  · next h => simpa using fun hname => h.resolve_left hname
  · next h => simpa using h

/-- The links between scripts as they are found, before any is dropped. -/
def candidates (scripts : List Script) : List Link :=
  scripts.flatMap fun producer => scripts.filterMap (link? producer)

theorem mem_candidates {scripts : List Script} {l : Link} :
  l ∈ candidates scripts
    ↔ ∃ producer ∈ scripts, ∃ consumer ∈ scripts, link? producer consumer = some l
  := by
  simp [candidates]

section Candidates

variable {l m : Link}

/-- Of each pair of scripts at most one link is found. -/
theorem eq_of_names_eq {p q c d : Script} (hp : p ∈ group statements) (hq : q ∈ group statements)
    (hc : c ∈ group statements) (hd : d ∈ group statements) (hl : link? p c = some l)
    (hm : link? q d = some m) (hpq : p.name = q.name) (hcd : c.name = d.name) :
  l = m
  := by
  obtain rfl := List.inj_on_of_nodup_map (nodup_names_group statements) hp hq hpq
  obtain rfl := List.inj_on_of_nodup_map (nodup_names_group statements) hc hd hcd
  exact Option.some.inj (hl.symm.trans hm)

theorem eq_of_pair_eq (hl : l ∈ candidates (group statements))
    (hm : m ∈ candidates (group statements)) (h : l.pair = m.pair) :
  l = m
  := by
  obtain ⟨p, hp, c, hc, hl⟩ := mem_candidates.mp hl
  obtain ⟨q, hq, d, hd, hm⟩ := mem_candidates.mp hm
  rw [(ends_of_link? hl).2, (ends_of_link? hm).2] at h
  obtain ⟨hpq, hcd⟩ : p.name = q.name ∧ c.name = d.name := by simpa using h
  exact eq_of_names_eq hp hq hc hd hl hm hpq hcd

/-- If no name has an arrow, a link is determined by its id. -/
theorem same_id_candidates
    (hnames : ∀ s ∈ statements, ¬['-', '>'] <:+: (nameOf s).toList) :
  Keyed.Same Link.id (candidates (group statements))
  := by
  intro l hl m hm h
  obtain ⟨p, hp, c, hc, hl⟩ := mem_candidates.mp hl
  obtain ⟨q, hq, d, hd, hm⟩ := mem_candidates.mp hm
  have harrow : ∀ s ∈ group statements, ¬['-', '>'] <:+: s.name.toList := by
    intro s hs
    obtain ⟨t, ht, hname⟩ := exists_nameOf_of_mem_group hs
    rw [← hname]
    exact hnames t ht
  have hid : ∀ a b : String, (s!"{a}->{b}").toList = a.toList ++ (['-', '>'] ++ b.toList) := by
    intro a b
    change (a ++ "->" ++ b).toList = _
    simp
  have hlist := congrArg String.toList h
  rw [(ends_of_link? hl).1, (ends_of_link? hm).1, hid, hid] at hlist
  have hend : ∀ {name : List Char}, ¬['-', '>'] <:+: name → ¬['-', '>'] <:+: name ++ ['-'] :=
    not_infix_append_dropLast (by decide)
  obtain ⟨hpq, hcd⟩ := separated_inj (hend (harrow p hp)) (hend (harrow q hq)) hlist
  exact eq_of_names_eq hp hq hc hd hl hm (String.toList_inj.mp hpq) (String.toList_inj.mp hcd)

end Candidates

theorem diagram_links (statements : List Statement) (options : Options) :
  (diagram statements options).links = Keyed.firsts Link.id (candidates (group statements))
  := rfl

theorem nodup_pairs_diagram (statements : List Statement) (options : Options) :
  (diagram statements options).pairs.Nodup
  := by
  have hnodup : (diagram statements options).links.Nodup :=
    List.Nodup.of_map _ (Keyed.nodup_keys_firsts Link.id (candidates (group statements)))
  apply hnodup.map_on
  intro l hl m hm
  exact eq_of_pair_eq (Keyed.mem_of_mem_firsts hl) (Keyed.mem_of_mem_firsts hm)

theorem source_ne_target_of_mem_diagram {options : Options} {l : Link}
    (h : l ∈ (diagram statements options).links) :
  l.source ≠ l.target
  := by
  obtain ⟨p, -, c, -, hl⟩ := mem_candidates.mp (Keyed.mem_of_mem_firsts h)
  obtain ⟨hne, -⟩ := exists_link?_iff.mp ⟨l, hl⟩
  obtain ⟨hsource, htarget⟩ := Prod.mk.inj (ends_of_link? hl).2
  rw [hsource, htarget]
  simpa using hne

/-- If no name has an arrow, two scripts are linked exactly if one writes what the other reads. -/
theorem mem_pairs_diagram
    (hnames : ∀ s ∈ statements, ¬['-', '>'] <:+: (nameOf s).toList) (options : Options)
    {p c : String} (hne : p ≠ c) :
  (boxId p, boxId c) ∈ (diagram statements options).pairs
    ↔ ∃ producer ∈ group statements, producer.name = p
      ∧ ∃ consumer ∈ group statements, consumer.name = c
        ∧ ∃ name, name ∈ producer.access.writtenNames ∧ name ∈ consumer.access.readNames
  := by
  have hmem : ∀ l, l ∈ (diagram statements options).links
      ↔ ∃ producer ∈ group statements, ∃ consumer ∈ group statements,
        link? producer consumer = some l := by
    intro l
    rw [diagram_links, (same_id_candidates hnames).mem_firsts, mem_candidates]
  constructor
  · intro h
    obtain ⟨l, hl, hpair⟩ := List.mem_map.mp h
    obtain ⟨producer, hp, consumer, hc, hlink⟩ := (hmem l).mp hl
    rw [(ends_of_link? hlink).2] at hpair
    obtain ⟨rfl, rfl⟩ : producer.name = p ∧ consumer.name = c := by simpa using hpair
    obtain ⟨-, hshared⟩ := exists_link?_iff.mp ⟨l, hlink⟩
    exact ⟨producer, hp, rfl, consumer, hc, rfl, hshared⟩
  · rintro ⟨producer, hp, rfl, consumer, hc, rfl, hshared⟩
    obtain ⟨l, hlink⟩ := exists_link?_iff.mpr ⟨hne, hshared⟩
    rw [← (ends_of_link? hlink).2]
    exact List.mem_map_of_mem ((hmem l).mpr ⟨producer, hp, consumer, hc, hlink⟩)

/-! ### Links between scripts and relations -/

theorem Shared.name_join (old new : Shared) (h : old.name = new.name) :
  (old.join new).name = old.name
  := by
  unfold join
  split
  · exact h.symm
  · rfl

/-- A relation has a box in the hybrid view if a script uses it. -/
theorem mem_names_relations {scripts : List Script} {name : String} :
  name ∈ (relations scripts).map Shared.name
    ↔ ∃ s ∈ scripts, ∃ u ∈ s.uses, u.node.sharedName = name
  := by
  rw [relations, Keyed.mem_keys_collect Shared.name_join]
  simp [Shared.ofUse, and_assoc]

theorem nodup_names_relations (scripts : List Script) :
  ((relations scripts).map Shared.name).Nodup
  := Keyed.nodup_keys_collect Shared.name_join _

theorem mem_relations {scripts : List Script} {r : Shared} (h : r ∈ relations scripts) :
  ∃ s ∈ scripts, ∃ u ∈ s.uses, r = Shared.ofUse s.name u
  := by
  have hmem := Keyed.mem_of_mem_collect (fun old new => by unfold Shared.join; split <;> simp) h
  simpa [eq_comm] using hmem

theorem mem_pairs_hybridLinks {scripts : List Script} {pair : String × String} :
  pair ∈ (scripts.flatMap hybridLinks).map Link.pair
    ↔ ∃ s ∈ scripts,
      (∃ name ∈ s.access.writtenNames, (boxId s.name, tableId name) = pair)
        ∨ ∃ name ∈ s.access.readNames, (tableId name, boxId s.name) = pair
  := by
  have hpair : ∀ source target, (flowLink source target).pair = (source, target) := by
    intro source target
    rfl
  rw [List.map_flatMap, List.mem_flatMap]
  simp [hybridLinks, hpair]

theorem mem_written_pairs {scripts : List Script} {script name : String} :
  (boxId script, tableId name) ∈ (scripts.flatMap hybridLinks).map Link.pair
    ↔ ∃ s ∈ scripts, s.name = script ∧ name ∈ s.access.writtenNames
  := by
  have hne : ∀ a b : String, ¬tableId a = boxId b := fun a b h => boxId_ne_tableId b a h.symm
  simp [mem_pairs_hybridLinks, hne, and_comm]

theorem mem_read_pairs {scripts : List Script} {script name : String} :
  (tableId name, boxId script) ∈ (scripts.flatMap hybridLinks).map Link.pair
    ↔ ∃ s ∈ scripts, s.name = script ∧ name ∈ s.access.readNames
  := by
  simp [mem_pairs_hybridLinks, and_comm]

/-- The hybrid view fails to be drawn as the first of the relations whose home cannot be told. -/
theorem hybridDiagram_eq_error_iff {options : Options} {fault : QualifiedName.Fault} :
  hybridDiagram statements options = .error fault
    ↔ ((relations (group statements)).map Shared.node).findSome? Node.fault? = some fault
  := by
  rw [List.findSome?_map, ← mapM_eq_error_iff (f := fun r => r.node.home.map (r.box options))
    fun r e => Node.map_home_eq_error_iff]
  unfold hybridDiagram
  dsimp only
  cases (relations (group statements)).mapM fun r => r.node.home.map (r.box options) <;>
    simp [bind, Except.bind, pure, Except.pure]

/-- The hybrid view fails only if it cannot be told where some relation lives. -/
theorem exists_fault_of_hybridDiagram {options : Options} {fault : QualifiedName.Fault}
    (h : hybridDiagram statements options = .error fault) :
  ∃ s ∈ statements, ∃ n ∈ s.nodes, n.kind.isStored = true ∧ n.home = .error fault
  := by
  obtain ⟨m, hm, hfault⟩ := List.exists_of_findSome?_eq_some (hybridDiagram_eq_error_iff.mp h)
  obtain ⟨r, hr, rfl⟩ := List.mem_map.mp hm
  obtain ⟨script, hscript, u, hu, rfl⟩ := mem_relations hr
  obtain ⟨s, hs, hu⟩ := List.mem_flatMap.mp hu
  obtain ⟨n, hn, rfl⟩ := List.mem_map.mp hu
  obtain ⟨hnode, hstored⟩ := List.mem_filter.mp hn
  exact ⟨s, mem_of_mem_group hscript hs, n, hnode, hstored, Node.fault?_eq_some_iff.mp hfault⟩

theorem hybridDiagram_eq_ok_iff {options : Options} {d : Diagram} :
  hybridDiagram statements options = .ok d
    ↔ ∃ tables, ((relations (group statements)).mapM fun r => r.node.home.map (r.box options))
        = .ok tables
      ∧ { boxes := (group statements).map (box options) ++ tables
          links := (group statements).flatMap hybridLinks } = d
  := by
  simp only [hybridDiagram, bind_eq_ok_iff, pure, Except.pure, Except.ok.injEq]

/-- A box of the hybrid view is that of a script or that of a relation. -/
theorem mem_boxes_hybridDiagram {options : Options} {d : Diagram}
    (h : hybridDiagram statements options = .ok d) {b : Box} (hb : b ∈ d.boxes) :
  (∃ s ∈ group statements, b = box options s)
    ∨ ∃ r home, b = Shared.box options r home
  := by
  obtain ⟨tables, htables, rfl⟩ := hybridDiagram_eq_ok_iff.mp h
  rcases List.mem_append.mp hb with hb | hb
  · obtain ⟨s, hs, rfl⟩ := List.mem_map.mp hb
    exact Or.inl ⟨s, hs, rfl⟩
  · obtain ⟨r, -, hr⟩ := exists_mem_of_mapM htables hb
    obtain ⟨home, -, rfl⟩ := map_eq_ok_iff.mp hr
    exact Or.inr ⟨r, home, rfl⟩

theorem links_hybridDiagram {options : Options} {d : Diagram}
    (h : hybridDiagram statements options = .ok d) :
  d.links = (group statements).flatMap hybridLinks
  := by
  obtain ⟨tables, -, rfl⟩ := hybridDiagram_eq_ok_iff.mp h
  rfl

/-- What can be told of the box of a relation wherever it lives can be told of the tables of the
hybrid view. -/
theorem map_tables {β : Type} {options : Options} {scripts : List Script} {tables : List Box}
    (htables : ((relations scripts).mapM fun r => r.node.home.map (r.box options)) = .ok tables)
    {f : Box → β} {g : Shared → β} (hbox : ∀ r home, f (Shared.box options r home) = g r) :
  tables.map f = (relations scripts).map g
  := by
  apply map_eq_map_of_mapM _ htables
  intro r t ht
  obtain ⟨home, -, rfl⟩ := map_eq_ok_iff.mp ht
  apply hbox

/-- The tables of the hybrid view are the relations that scripts use. -/
theorem exists_table_iff {options : Options} {d : Diagram}
    (h : hybridDiagram statements options = .ok d) {id : String} :
  (∃ t ∈ d.boxes, t.kind = .simpleTable ∧ t.id = id)
    ↔ ∃ s ∈ group statements, ∃ u ∈ s.uses, tableId u.node.sharedName = id
  := by
  obtain ⟨tables, htables, rfl⟩ := hybridDiagram_eq_ok_iff.mp h
  have hkeys : tables.map (fun t => (t.kind, t.id))
      = (relations (group statements)).map fun r => (BoxKind.simpleTable, tableId r.name) :=
    map_tables htables fun _ _ => rfl
  have hscripts : ∀ t ∈ (group statements).map (box options), t.kind ≠ .simpleTable := by
    intro t ht
    obtain ⟨s, -, rfl⟩ := List.mem_map.mp ht
    simp [box]
  have htable : (∃ t ∈ tables, t.kind = .simpleTable ∧ t.id = id)
      ↔ (BoxKind.simpleTable, id) ∈ tables.map fun t => (t.kind, t.id) := by
    simp
  have hname : (∃ s ∈ group statements, ∃ u ∈ s.uses, tableId u.node.sharedName = id)
      ↔ ∃ name ∈ (relations (group statements)).map Shared.name, tableId name = id := by
    simp only [mem_names_relations]
    grind
  rw [hname]
  constructor
  · rintro ⟨t, ht, hkind, hid⟩
    rcases List.mem_append.mp ht with ht | ht
    · exact absurd hkind (hscripts t ht)
    · have hmem := htable.mp ⟨t, ht, hkind, hid⟩
      rw [hkeys] at hmem
      simpa using hmem
  · rintro ⟨name, hmem, rfl⟩
    obtain ⟨t, ht, hkind⟩ := htable.mpr (by rw [hkeys]; simpa using hmem)
    exact ⟨t, List.mem_append_right _ ht, hkind⟩

end Script

namespace View

theorem build_hybrid_eq_ok_iff {statements : List Statement} {options : Options} {d : Diagram} :
  View.hybrid.build statements options = .ok d ↔ Script.hybridDiagram statements options = .ok d
  := mapError_eq_ok_iff

theorem build_hybrid_eq_error {statements : List Statement} {options : Options}
    {fault : QualifiedName.Fault} (h : Script.hybridDiagram statements options = .error fault) :
  View.hybrid.build statements options = .error (.name fault)
  := by
  rw [build, h]
  rfl

/-- Of scripts without an arrow in their names, one is linked to another exactly if the hybrid view
leads from the one to the other by way of a table. No script is linked to itself, and none to
another one twice. There is no hybrid view only if it cannot be told where some relation lives. -/
theorem build_script_links_by_table {statements : List Statement}
    (hnames : ∀ s ∈ statements, ¬['-', '>'] <:+: (Script.nameOf s).toList) (options : Options) :
  ∃ scripts, View.script.build statements options = .ok scripts
    ∧ scripts.pairs.Nodup
    ∧ (∀ l ∈ scripts.links, l.source ≠ l.target)
    ∧ ((∃ fault, View.hybrid.build statements options = .error (.name fault)
        ∧ ∃ s ∈ statements, ∃ n ∈ s.nodes, n.kind.isStored = true ∧ n.home = .error fault)
      ∨ ∃ hybrid, View.hybrid.build statements options = .ok hybrid
        ∧ ∀ p c, p ≠ c →
          ((Script.boxId p, Script.boxId c) ∈ scripts.pairs
            ↔ ∃ t ∈ hybrid.boxes, t.kind = .simpleTable
              ∧ (Script.boxId p, t.id) ∈ hybrid.pairs ∧ (t.id, Script.boxId c) ∈ hybrid.pairs))
  := by
  refine ⟨Script.diagram statements options, rfl, Script.nodup_pairs_diagram _ _, ?_, ?_⟩
  · intro l hl
    exact Script.source_ne_target_of_mem_diagram hl
  · cases hhybrid : Script.hybridDiagram statements options with
    | error fault =>
      have hhomes := Script.exists_fault_of_hybridDiagram hhybrid
      exact Or.inl ⟨fault, build_hybrid_eq_error hhybrid, hhomes⟩
    | ok hybrid =>
      refine Or.inr ⟨hybrid, build_hybrid_eq_ok_iff.mpr hhybrid, ?_⟩
      intro p c hne
      have hlinks : hybrid.pairs
          = ((Script.group statements).flatMap Script.hybridLinks).map Link.pair := by
        obtain ⟨tables, -, rfl⟩ := Script.hybridDiagram_eq_ok_iff.mp hhybrid
        rfl
      rw [Script.mem_pairs_diagram hnames options hne, hlinks]
      constructor
      · rintro ⟨producer, hp, rfl, consumer, hc, rfl, name, hwritten, hread⟩
        obtain ⟨u, hu, -, hname⟩ := Script.mem_writtenNames.mp hwritten
        obtain ⟨t, ht, hkind, hid⟩ :=
          (Script.exists_table_iff hhybrid).mpr ⟨producer, hp, u, hu, rfl⟩
        rw [hname] at hid
        refine ⟨t, ht, hkind, ?_⟩
        rw [hid, Script.mem_written_pairs, Script.mem_read_pairs]
        exact ⟨⟨producer, hp, rfl, hwritten⟩, consumer, hc, rfl, hread⟩
      · rintro ⟨t, ht, hkind, hwrite, hread⟩
        obtain ⟨s, -, u, -, hid⟩ := (Script.exists_table_iff hhybrid).mp ⟨t, ht, hkind, rfl⟩
        rw [← hid, Script.mem_written_pairs] at hwrite
        rw [← hid, Script.mem_read_pairs] at hread
        obtain ⟨producer, hp, hpname, hwritten⟩ := hwrite
        obtain ⟨consumer, hc, hcname, hread⟩ := hread
        exact ⟨producer, hp, hpname, consumer, hc, hcname, _, hwritten, hread⟩

/-- The script `a-` loads `t` from `raw`, and `>b` reads `t` and writes to it again. -/
def reloaded : List Statement :=
  [{ type := "insert"
     sourceName := some "a-"
     nodes :=
      [{ id := "1", kind := .table, label := "raw" },
       { id := "2", kind := .table, label := "t" }]
     edges := [{ id := "3", source := "1", target := "2", kind := .dataFlow }] },
   { type := "insert"
     sourceName := some ">b"
     nodes :=
      [{ id := "1", kind := .table, label := "t" },
       { id := "2", kind := .view, label := "v" }]
     edges :=
      [{ id := "3", source := "1", target := "2", kind := .dataFlow },
       { id := "4", source := "2", target := "1", kind := .dataFlow }] }]

/-- The one script is linked to the other by way of `t`, and neither is linked otherwise. -/
theorem build_script_links_by_table_reloaded :
  ∃ scripts hybrid, View.script.build reloaded {} = .ok scripts
    ∧ View.hybrid.build reloaded {} = .ok hybrid
    ∧ scripts.pairs = [("script:a-", "script:>b")]
    ∧ ∃ t ∈ hybrid.boxes, t.kind = .simpleTable
      ∧ ("script:a-", t.id) ∈ hybrid.pairs ∧ (t.id, "script:>b") ∈ hybrid.pairs
  := by
  have hnames : ∀ s ∈ reloaded, ¬['-', '>'] <:+: (Script.nameOf s).toList := by decide
  obtain ⟨scripts, hscripts, -, -, ⟨_, herror, -⟩ | ⟨hybrid, hhybrid, hlinks⟩⟩ :=
    build_script_links_by_table hnames {}
  · cases herror
  · have hpairs : scripts.pairs = [("script:a-", "script:>b")] := by
      cases hscripts
      decide
    refine ⟨scripts, hybrid, hscripts, hhybrid, hpairs, ?_⟩
    apply (hlinks "a-" ">b" (by decide)).mp
    rw [hpairs]
    decide

/-- The script `p` loads `t` from `s`, and `c` loads `u` from `t`. The name of `t` tells where it
lives, but it cannot be taken apart. -/
def forwarded : List Statement :=
  [{ type := "insert"
     sourceName := some "p"
     nodes :=
      [{ id := "s", kind := .table, label := "s" },
       { id := "t", kind := .table, label := "t", qualifiedName := some "a-b.c.d.e" }]
     edges := [{ id := "1", source := "s", target := "t", kind := .dataFlow }] },
   { type := "insert"
     sourceName := some "c"
     nodes :=
      [{ id := "t", kind := .table, label := "t", qualifiedName := some "a-b.c.d.e" },
       { id := "u", kind := .table, label := "u" }]
     edges := [{ id := "2", source := "t", target := "u", kind := .dataFlow }] }]

/-- The one script is linked to the other, but there is no hybrid view that leads from the one to
the other. -/
theorem build_script_links_without_hybrid :
  (∀ s ∈ forwarded, ¬['-', '>'] <:+: (Script.nameOf s).toList)
    ∧ (∃ scripts, View.script.build forwarded {} = .ok scripts
      ∧ scripts.pairs = [("script:p", "script:c")])
    ∧ View.hybrid.build forwarded {} = .error (.name .tooManyPieces)
  := by
  refine ⟨by decide, ⟨Script.diagram forwarded {}, rfl, by decide⟩, ?_⟩
  decide +kernel

end View

end Lineage
