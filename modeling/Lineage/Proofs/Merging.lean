import Lineage.Proofs.Capitals
import Lineage.Proofs.Keyed
import Lineage.Statement.Merge

/-!
# Merged statements

The merged statement has every id of a node or an edge of the statements, and its nodes and edges
come from them. Statements may be merged in batches: merging two batches of statements, and then
what they are merged to, is merging all of the statements. Nodes and edges are collected under
their ids, and `Keyed.collect` does not mind if a part of a list was collected before. The type of a
merged statement is in capital letters already, and the type of a query stands for a batch of
different types.
-/

namespace Lineage

/-! ### Nodes -/

namespace Node

@[simp] theorem stamp_none : stamp none = fun n => n := rfl

@[simp] theorem stamp_id (sourceName : Option String) (n : Node) :
  (n.stamp sourceName).id = n.id
  := by
  unfold stamp
  split <;> rfl

@[simp] theorem stamp_kind (sourceName : Option String) (n : Node) :
  (n.stamp sourceName).kind = n.kind
  := by
  unfold stamp
  split <;> rfl

/-- A node that is marked stays as it is. -/
theorem stamp_stamp (sourceName : Option String) (n : Node) :
  (n.stamp sourceName).stamp sourceName = n.stamp sourceName
  := by
  by_cases h : Text.isFilled sourceName ∧ ¬Text.isFilled n.sourceName
  · have hstamp : n.stamp sourceName = { n with sourceName := sourceName } := if_pos h
    rw [hstamp]
    apply if_neg
    rintro ⟨hfilled, hnot⟩
    exact hnot hfilled
  · have hstamp : n.stamp sourceName = n := if_neg h
    rw [hstamp, hstamp]

@[simp] theorem withJoinOf_id (old new : Node) : (old.withJoinOf new).id = old.id := rfl

theorem withJoinOf_assoc (a b c : Node) :
  (a.withJoinOf b).withJoinOf c = a.withJoinOf (b.withJoinOf c)
  := by
  have horElse : ∀ t u v, Text.orElse v (Text.orElse u t) = Text.orElse (Text.orElse v u) t := by
    intro t u v
    cases hv : Text.isFilled v <;> simp [Text.orElse, hv]
  simp [withJoinOf, horElse]

end Node

namespace Statement

/-! ### One statement and several -/

theorem stamped_eq (s : Statement) : s.stamped = { s with nodes := s.stampedNodes } := by
  unfold stamped stamped?
  split
  · rfl
  · next h =>
    have hsame : s.stampedNodes = s.nodes := by
      conv_rhs => rw [← List.map_id s.nodes]
      apply List.map_congr_left
      intro n hn
      apply if_neg
      rintro ⟨hfilled, hnot⟩
      apply h
      exact ⟨hfilled, List.any_eq_true.mpr ⟨n, hn, by simpa using hnot⟩⟩
    rw [hsame]
    rfl

theorem merge_singleton (s : Statement) : merge [s] = { s with nodes := s.stampedNodes } :=
  stamped_eq s

theorem merge_eq_of_length_ne {statements : List Statement} (h : statements.length ≠ 1) :
  merge statements =
    { index := 0
      type := commonType statements
      sourceName := none
      nodes := mergedNodes statements
      edges := mergedEdges statements }
  := by
  match statements with
  | [] => rfl
  | [s] => exact absurd rfl h
  | _ :: _ :: _ => rfl

/-! ### What is merged -/

/-- The nodes of the merged statement are those of the statements, collected or not. -/
theorem nodes_merge (statements : List Statement) :
  (merge statements).nodes = statements.flatMap stampedNodes
    ∨ (merge statements).nodes = mergedNodes statements
  := by
  by_cases hlength : statements.length = 1
  · obtain ⟨s, rfl⟩ := List.length_eq_one_iff.mp hlength
    left
    simp [merge_singleton]
  · right
    rw [merge_eq_of_length_ne hlength]

theorem edges_merge (statements : List Statement) :
  (merge statements).edges = statements.flatMap Statement.edges
    ∨ (merge statements).edges = mergedEdges statements
  := by
  by_cases hlength : statements.length = 1
  · obtain ⟨s, rfl⟩ := List.length_eq_one_iff.mp hlength
    left
    simp [merge_singleton]
  · right
    rw [merge_eq_of_length_ne hlength]

variable {statements : List Statement}

/-- A node of the merged statement has its id and kind from one of the statements. -/
theorem exists_node_of_mem_merge {n : Node} (h : n ∈ (merge statements).nodes) :
  ∃ m ∈ statements.flatMap Statement.nodes, m.id = n.id ∧ m.kind = n.kind
  := by
  have hstamped : ∃ m ∈ statements.flatMap stampedNodes, m.id = n.id ∧ m.kind = n.kind := by
    rcases nodes_merge statements with hnodes | hnodes
    · rw [hnodes] at h
      exact ⟨n, h, rfl, rfl⟩
    · rw [hnodes] at h
      have hpair := List.mem_map_of_mem (f := fun n : Node => (n.id, n.kind)) h
      have hfirsts : (mergedNodes statements).map (fun n => (n.id, n.kind))
          = Keyed.firsts Prod.fst
            ((statements.flatMap stampedNodes).map fun n => (n.id, n.kind)) := by
        apply Keyed.map_collect
        · intro n
          rfl
        · intro old new
          rfl
      rw [hfirsts] at hpair
      simpa using Keyed.mem_of_mem_firsts hpair
  obtain ⟨m, hm, hid, hkind⟩ := hstamped
  obtain ⟨s, hs, hmem⟩ := List.mem_flatMap.mp hm
  obtain ⟨k, hk, rfl⟩ := List.mem_map.mp hmem
  exact ⟨k, List.mem_flatMap.mpr ⟨s, hs, hk⟩, by simpa using hid, by simpa using hkind⟩

/-- Every id of a node is kept. -/
theorem exists_node_merge {n : Node} (h : n ∈ statements.flatMap Statement.nodes) :
  ∃ m ∈ (merge statements).nodes, m.id = n.id
  := by
  obtain ⟨s, hs, hn⟩ := List.mem_flatMap.mp h
  have hmem : n.stamp s.sourceName ∈ statements.flatMap stampedNodes :=
    List.mem_flatMap.mpr ⟨s, hs, List.mem_map_of_mem hn⟩
  rcases nodes_merge statements with hnodes | hnodes
  · rw [hnodes]
    exact ⟨_, hmem, by simp⟩
  · have hid : n.id ∈ (mergedNodes statements).map Node.id := by
      rw [mergedNodes, Keyed.mem_keys_collect fun b a _ => b.withJoinOf_id a]
      simpa using List.mem_map_of_mem (f := Node.id) hmem
    rw [hnodes]
    exact List.mem_map.mp hid

theorem mem_edges_of_mem_merge {e : Edge} (h : e ∈ (merge statements).edges) :
  e ∈ statements.flatMap Statement.edges
  := by
  rcases edges_merge statements with hedges | hedges
  · rwa [hedges] at h
  · rw [hedges] at h
    exact Keyed.mem_of_mem_firsts h

/-- Every id of an edge is kept. -/
theorem exists_edge_merge {e : Edge} (h : e ∈ statements.flatMap Statement.edges) :
  ∃ f ∈ (merge statements).edges, f.id = e.id
  := by
  rcases edges_merge statements with hedges | hedges
  · rw [hedges]
    exact ⟨e, h, rfl⟩
  · rw [hedges]
    apply List.mem_map.mp
    apply (Keyed.mem_keys_firsts _ _ _).mpr
    exact List.mem_map_of_mem h

/-! ### Types -/

theorem commonType_of_forall (hne : statements ≠ []) {type : String}
    (h : ∀ s ∈ statements, Text.upper s.type = type) :
  commonType statements = type
  := by
  have hdistinct : Keyed.distinct (statements.map fun s => Text.upper s.type) = [type] := by
    rw [Keyed.distinct_eq_singleton_iff]
    refine ⟨by simpa using hne, ?_⟩
    intro t ht
    obtain ⟨s, hs, rfl⟩ := List.mem_map.mp ht
    exact h s hs
  simp [commonType, hdistinct]

/-- The common type is that of a query, or all statements have it. -/
theorem commonType_cases (statements : List Statement) :
  commonType statements = "SELECT" ∨ ∀ s ∈ statements, Text.upper s.type = commonType statements
  := by
  unfold commonType
  split
  · next type htype =>
    right
    intro s hs
    exact (Keyed.distinct_eq_singleton_iff.mp htype).2 _ (List.mem_map_of_mem hs)
  · exact Or.inl rfl

theorem commonType_singleton (s : Statement) : commonType [s] = Text.upper s.type :=
  commonType_of_forall (by simp) (by simp)

theorem commonType_append {us vs : List Statement} (hus : us ≠ []) (hvs : vs ≠ []) :
  commonType (us ++ vs) = if commonType us = commonType vs then commonType us else "SELECT"
  := by
  have hne : us ++ vs ≠ [] := by simp [hus]
  by_cases hall : ∃ type, ∀ s ∈ us ++ vs, Text.upper s.type = type
  · obtain ⟨type, htype⟩ := hall
    have hu : commonType us = type :=
      commonType_of_forall hus fun s hs => htype s (by simp [hs])
    have hv : commonType vs = type :=
      commonType_of_forall hvs fun s hs => htype s (by simp [hs])
    rw [commonType_of_forall hne htype, hu, hv, if_pos rfl]
  · have hselect : commonType (us ++ vs) = "SELECT" := by
      rcases commonType_cases (us ++ vs) with hselect | htype
      · exact hselect
      · exact absurd ⟨_, htype⟩ hall
    rw [hselect]
    split
    · next heq =>
      -- if the batches have the same type, and not of a query, all statements have it
      rcases commonType_cases us with hu | hu
      · exact hu.symm
      · rcases commonType_cases vs with hv | hv
        · rw [heq, hv]
        · refine absurd ⟨commonType us, ?_⟩ hall
          intro s hs
          rcases List.mem_append.mp hs with hs | hs
          · exact hu s hs
          · rw [heq]
            exact hv s hs
    · rfl

/-- The type of the merged statement, in capital letters, is the common type. -/
theorem upper_type_merge (statements : List Statement) :
  Text.upper (merge statements).type = commonType statements
  := by
  by_cases hlength : statements.length = 1
  · obtain ⟨s, rfl⟩ := List.length_eq_one_iff.mp hlength
    rw [merge_singleton, commonType_singleton]
  · rw [merge_eq_of_length_ne hlength]
    change Text.upper (commonType statements) = commonType statements
    match statements, commonType_cases statements with
    | [], _ => decide
    | _, Or.inl hselect =>
      rw [hselect]
      decide
    | s :: _, Or.inr htype => rw [← htype s (by simp), Text.upper_upper]

/-! ### Batches -/

/-- What a batch of statements is merged to has the nodes of the batch, collected or not. -/
theorem stampedNodes_merge (statements : List Statement) :
  (merge statements).stampedNodes = statements.flatMap stampedNodes
    ∨ (merge statements).stampedNodes = mergedNodes statements
  := by
  by_cases hlength : statements.length = 1
  · obtain ⟨s, rfl⟩ := List.length_eq_one_iff.mp hlength
    left
    simp [merge_singleton, stampedNodes, Node.stamp_stamp]
  · right
    rw [merge_eq_of_length_ne hlength]
    simp [stampedNodes]

theorem mergedNodes_merge (us vs : List Statement) :
  mergedNodes [merge us, merge vs] = mergedNodes (us ++ vs)
  := by
  have hleft := Keyed.collect_collect_append fun b a _ => Node.withJoinOf_id b a
  have hright :=
    Keyed.collect_append_collect (fun b a _ => Node.withJoinOf_id b a) Node.withJoinOf_assoc
  simp only [mergedNodes, List.flatMap_append, List.flatMap_cons, List.flatMap_nil, List.append_nil]
  rcases stampedNodes_merge us with hu | hu <;> rcases stampedNodes_merge vs with hv | hv <;>
    simp [hu, hv, mergedNodes, hleft, hright]

theorem mergedEdges_merge (us vs : List Statement) :
  mergedEdges [merge us, merge vs] = mergedEdges (us ++ vs)
  := by
  simp only [mergedEdges, List.flatMap_append, List.flatMap_cons, List.flatMap_nil, List.append_nil]
  rcases edges_merge us with hu | hu <;> rcases edges_merge vs with hv | hv <;>
    simp [hu, hv, mergedEdges, Keyed.firsts_firsts_append, Keyed.firsts_append_firsts]

/-- Merging two batches, and then what they are merged to, is merging all of the statements. -/
theorem merge_append {us vs : List Statement} (hus : us ≠ []) (hvs : vs ≠ []) :
  merge (us ++ vs) = merge [merge us, merge vs]
  := by
  have hlength : (us ++ vs).length ≠ 1 := by
    have hu := List.length_pos_of_ne_nil hus
    have hv := List.length_pos_of_ne_nil hvs
    rw [List.length_append]
    omega
  have htype : commonType [merge us, merge vs] = commonType (us ++ vs) := by
    have hpair : commonType ([merge us] ++ [merge vs]) = _ := commonType_append (by simp) (by simp)
    rw [commonType_singleton, commonType_singleton, upper_type_merge, upper_type_merge] at hpair
    rw [commonType_append hus hvs, ← hpair]
    rfl
  rw [merge_eq_of_length_ne hlength, merge_eq_of_length_ne (by simp), htype, mergedNodes_merge,
    mergedEdges_merge]

/-- A statement in which `A` is joined twice. -/
def joined : Statement :=
  { index := 4
    type := "insert"
    sourceName := some "a.sql"
    nodes :=
      [{ id := "A", kind := .table, label := "a", joinType := some "INNER" },
       { id := "A", kind := .table, label := "b", joinCondition := some "x = y" }]
    edges := [{ id := "1", source := "A", target := "B", kind := .dataFlow }] }

/-- Statements of another script in which `A` is joined once more. -/
def rejoined : List Statement :=
  [{ type := "INSERT"
     nodes := [{ id := "A", kind := .cte, label := "c", joinType := some "LEFT" }]
     edges := [{ id := "1", source := "B", target := "A", kind := .derivation }] },
   { type := "Insert"
     sourceName := some "b.sql"
     nodes :=
      [{ id := "B", kind := .table, label := "b" },
       { id := "A", kind := .table, label := "d" }] }]

/-- `A` is kept as it was found first, with the last joins that are told of it. -/
theorem merge_append_rejoined :
  merge ([joined] ++ rejoined) = merge [merge [joined], merge rejoined]
    ∧ merge ([joined] ++ rejoined) =
      { type := "INSERT"
        nodes :=
          [{ id := "A", kind := .table, label := "a", joinType := some "LEFT",
             joinCondition := some "x = y", sourceName := some "a.sql" },
           { id := "B", kind := .table, label := "b", sourceName := some "b.sql" }]
        edges := [{ id := "1", source := "A", target := "B", kind := .dataFlow }] }
  := ⟨merge_append (by decide) (by decide), by decide⟩

end Statement

end Lineage
