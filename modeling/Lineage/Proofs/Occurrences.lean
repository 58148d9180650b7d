import Lineage.Proofs.Merging

/-!
# Occurrences

A node may stand in several statements, and several times in one of them. The merged statement has
it once, in the place of its first occurrence: as it is there, marked with the script of the
statement unless it names one itself, and with the last way to join and the last condition that any
of its occurrences tells. An edge is merged to its first occurrence.

`Statement.IsMerger` says this of a statement without adding one occurrence after the other, and
only the merged statement has the property.
-/

namespace Lineage

/-! ### Last texts -/

namespace Text

/-- The last of some texts that is filled, or else another text. -/
def lastFilled (texts : List (Option String)) (otherwise : Option String) : Option String :=
  (texts.filter isFilled).getLast?.getD otherwise

theorem lastFilled_concat (texts : List (Option String)) (t otherwise : Option String) :
  lastFilled (texts ++ [t]) otherwise = orElse t (lastFilled texts otherwise)
  := by
  cases h : isFilled t <;> simp [lastFilled, orElse, h]

theorem lastFilled_self (t : Option String) : lastFilled [t] t = t := by
  cases h : isFilled t <;> simp [lastFilled, h]

end Text

/-! ### Occurrences of a node -/

/-- A node, with the script of the statement that it stands in. -/
structure Occurrence where
  script : Option String
  node : Node
  deriving DecidableEq, Repr

namespace Occurrence

/-- The script that a node is marked with: that of its statement, unless that has none or the node
names one itself. -/
def sourceName (o : Occurrence) : Option String :=
  if Text.isFilled o.script && !Text.isFilled o.node.sourceName then o.script
  else o.node.sourceName

/-- The node that some occurrences are merged to. -/
def united? : List Occurrence → Option Node
  | [] => none
  | first :: later =>
    some { first.node with
      sourceName := first.sourceName
      joinType :=
        Text.lastFilled ((first :: later).map fun o => o.node.joinType) first.node.joinType
      joinCondition :=
        Text.lastFilled ((first :: later).map fun o => o.node.joinCondition)
          first.node.joinCondition }

theorem stamp_eq (o : Occurrence) :
  o.node.stamp o.script = { o.node with sourceName := o.sourceName }
  := by
  cases hscript : Text.isFilled o.script <;> cases hnamed : Text.isFilled o.node.sourceName <;>
    simp [Node.stamp, sourceName, hscript, hnamed]

end Occurrence

/-- Joining later occurrences to a node, one after the other, writes the last of their joins over
those of the node. -/
theorem Node.foldl_withJoinOf (first : Node) (later : List Node) :
  later.foldl Node.withJoinOf first
    = { first with
        joinType := Text.lastFilled ((first :: later).map Node.joinType) first.joinType
        joinCondition :=
          Text.lastFilled ((first :: later).map Node.joinCondition) first.joinCondition }
  := by
  induction later using List.reverseRecOn with
  | nil => simp [Text.lastFilled_self]
  | append_singleton later n ih =>
    rw [List.foldl_concat, ih, ← List.cons_append, List.map_append, List.map_append,
      List.map_singleton, List.map_singleton, Text.lastFilled_concat, Text.lastFilled_concat]
    rfl

theorem Occurrence.joined?_eq_united? (os : List Occurrence) :
  Keyed.joined? Node.withJoinOf (os.map fun o => o.node.stamp o.script) = united? os
  := by
  cases os with
  | nil => rfl
  | cons first later =>
    simp only [Keyed.joined?, List.map_cons, Node.foldl_withJoinOf, stamp_eq, List.map_map]
    rfl

namespace Statement

variable {statements : List Statement}

/-- The nodes of some statements as they stand in them. -/
def occurrences (statements : List Statement) : List Occurrence :=
  statements.flatMap fun s => s.nodes.map fun n => ⟨s.sourceName, n⟩

/-- The occurrences of the node of an id. -/
def occurrencesOf (statements : List Statement) (id : String) : List Occurrence :=
  (occurrences statements).filter (·.node.id = id)

/-- Whether a statement is what some statements are merged to. -/
structure IsMerger (statements : List Statement) (merged : Statement) : Prop where
  index : merged.index = 0
  sourceName : merged.sourceName = none
  type_of_agree : statements ≠ [] → ∀ type,
    (∀ s ∈ statements, Text.upper s.type = type) → merged.type = type
  type_of_differ : (statements = []
    ∨ ∃ s ∈ statements, ∃ t ∈ statements, Text.upper s.type ≠ Text.upper t.type) →
      merged.type = "SELECT"
  nodeIds : merged.nodes.map Node.id = ((occurrences statements).map fun o => o.node.id).eraseDups
  nodes : ∀ n ∈ merged.nodes, Occurrence.united? (occurrencesOf statements n.id) = some n
  edgeIds : merged.edges.map Edge.id
    = ((statements.flatMap Statement.edges).map Edge.id).eraseDups
  edges : ∀ e ∈ merged.edges, (statements.flatMap Statement.edges).find? (·.id = e.id) = some e

/-! ### The merged statement -/

theorem flatMap_stampedNodes (statements : List Statement) :
  statements.flatMap stampedNodes
    = (occurrences statements).map fun o => o.node.stamp o.script
  := by
  rw [occurrences, List.map_flatMap]
  congr 1
  funext s
  rw [List.map_map]
  rfl

theorem map_id_mergedNodes (statements : List Statement) :
  (mergedNodes statements).map Node.id
    = ((occurrences statements).map fun o => o.node.id).eraseDups
  := by
  rw [mergedNodes, Keyed.keys_collect fun b a _ => b.withJoinOf_id a, flatMap_stampedNodes]
  simp [Function.comp_def]

/-- What stands under an id in the merged statement is what the occurrences of the id are merged
to. -/
theorem united?_of_mem_mergedNodes {n : Node} (h : n ∈ mergedNodes statements) :
  Occurrence.united? (occurrencesOf statements n.id) = some n
  := by
  have hnodup : ((mergedNodes statements).map Node.id).Nodup :=
    Keyed.nodup_keys_collect (fun b a _ => b.withJoinOf_id a) _
  have hfind : (mergedNodes statements).find? (·.id = n.id) = some n :=
    (Keyed.find?_eq_some_iff_mem hnodup).mpr ⟨h, rfl⟩
  rw [mergedNodes, Keyed.find?_collect fun b a _ => b.withJoinOf_id a, flatMap_stampedNodes,
    List.filter_map, Occurrence.joined?_eq_united?] at hfind
  simpa [occurrencesOf, Function.comp_def] using hfind

theorem find?_of_mem_mergedEdges {e : Edge} (h : e ∈ mergedEdges statements) :
  (statements.flatMap Statement.edges).find? (·.id = e.id) = some e
  := by
  rw [← Keyed.find?_firsts, Keyed.find?_eq_some_iff_mem (Keyed.nodup_keys_firsts _ _)]
  use h

theorem commonType_of_differ
    (h : statements = []
      ∨ ∃ s ∈ statements, ∃ t ∈ statements, Text.upper s.type ≠ Text.upper t.type) :
  commonType statements = "SELECT"
  := by
  rcases h with rfl | ⟨s, hs, t, ht, hne⟩
  · rfl
  · rcases commonType_cases statements with hselect | hall
    · apply hselect
    · apply absurd _ hne
      rw [hall s hs, hall t ht]

theorem merge_isMerger (h : statements.length ≠ 1) : IsMerger statements (merge statements) := by
  rw [merge_eq_of_length_ne h]
  constructor
  · rfl
  · rfl
  · intro hne type htype
    apply commonType_of_forall hne htype
  · apply commonType_of_differ
  · apply map_id_mergedNodes
  · intro n hn
    apply united?_of_mem_mergedNodes hn
  · apply Keyed.keys_collect fun _ _ _ => rfl
  · intro e he
    apply find?_of_mem_mergedEdges he

/-! ### No other statement -/

/-- A list is determined by its keys, if a key tells what stands under it. -/
theorem eq_of_keys_eq {α κ : Type} {key : α → κ} (under? : κ → Option α) {as bs : List α}
    (hkeys : as.map key = bs.map key) (has : ∀ a ∈ as, under? (key a) = some a)
    (hbs : ∀ b ∈ bs, under? (key b) = some b) :
  as = bs
  := by
  have hlist : ∀ cs : List α, (∀ c ∈ cs, under? (key c) = some c) →
      (cs.map key).filterMap under? = cs := by
    intro cs hcs
    have hsome : cs.filterMap (under? ∘ key) = cs.filterMap some := List.filterMap_congr hcs
    rw [List.filterMap_map, hsome, List.filterMap_some]
  rw [← hlist as has, hkeys, hlist bs hbs]

theorem IsMerger.unique {s t : Statement} (hs : IsMerger statements s) (ht : IsMerger statements t) :
  s = t
  := by
  have htype : s.type = t.type := by
    by_cases hdiffer : statements = []
        ∨ ∃ u ∈ statements, ∃ v ∈ statements, Text.upper u.type ≠ Text.upper v.type
    · rw [hs.type_of_differ hdiffer, ht.type_of_differ hdiffer]
    · obtain ⟨hne, hagree⟩ := not_or.mp hdiffer
      obtain ⟨u, hu⟩ := List.exists_mem_of_ne_nil statements hne
      have hall : ∀ v ∈ statements, Text.upper v.type = Text.upper u.type := by
        intro v hv
        by_contra hdistinct
        apply hagree
        use v, hv, u, hu
      rw [hs.type_of_agree hne _ hall, ht.type_of_agree hne _ hall]
  have hnodes : s.nodes = t.nodes :=
    eq_of_keys_eq (fun id => Occurrence.united? (occurrencesOf statements id))
      (hs.nodeIds.trans ht.nodeIds.symm) hs.nodes ht.nodes
  have hedges : s.edges = t.edges :=
    eq_of_keys_eq (fun id => (statements.flatMap Statement.edges).find? (·.id = id))
      (hs.edgeIds.trans ht.edgeIds.symm) hs.edges ht.edges
  have hindex : s.index = t.index := hs.index.trans ht.index.symm
  have hsource : s.sourceName = t.sourceName := hs.sourceName.trans ht.sourceName.symm
  cases s
  cases t
  rw [Statement.mk.injEq]
  use hindex, htype, hsource, hnodes, hedges

/-- Unless there is one statement alone, the merged statement is the one that has the nodes and
edges in the order of their first occurrences, each node with the last joins that are told of it,
and the type that all of the statements have or else that of a query. -/
theorem isMerger_iff (h : statements.length ≠ 1) {merged : Statement} :
  IsMerger statements merged ↔ merged = merge statements
  := by
  constructor
  · intro hmerged
    apply hmerged.unique (merge_isMerger h)
  · rintro rfl
    apply merge_isMerger h

/-- `A` stands twice in the first statement and once in each of the others, as a table, a common
table expression and a table of another label. Nothing is merged to an empty query. -/
theorem isMerger_iff_rejoined :
  (joined :: rejoined).length ≠ 1
  ∧ IsMerger (joined :: rejoined)
    { type := "INSERT"
      nodes :=
        [{ id := "A", kind := .table, label := "a", joinType := some "LEFT",
           joinCondition := some "x = y", sourceName := some "a.sql" },
         { id := "B", kind := .table, label := "b", sourceName := some "b.sql" }]
      edges := [{ id := "1", source := "A", target := "B", kind := .dataFlow }] }
  ∧ IsMerger [] {}
  := by
  have hlength : (joined :: rejoined).length ≠ 1 := by decide
  have hempty : ([] : List Statement).length ≠ 1 := by decide
  use hlength
  constructor
  · apply (isMerger_iff hlength).mpr
    decide
  · apply (isMerger_iff hempty).mpr
    rfl

end Statement

end Lineage
