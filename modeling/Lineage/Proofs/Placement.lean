import Lineage.Proofs.Keyed
import Lineage.View.Boxes

/-!
# Places and boxes

Every node that has a place is drawn in a box of the diagram: the box of a relation or that of
the output. The place of a column is the box that shows it. An edge makes a connection if both
of its ends have places, in different boxes. There are boxes unless some relation has a
`Node.drawFault?`.
-/

namespace Lineage

/-! ### Results that may fail -/

theorem bind_eq_ok_iff {α β ε : Type} {x : Except ε α} {f : α → Except ε β} {b : β} :
  x >>= f = .ok b ↔ ∃ a, x = .ok a ∧ f a = .ok b
  := by
  cases x <;> simp [bind, Except.bind]

theorem map_eq_ok_iff {α β ε : Type} {x : Except ε α} {f : α → β} {b : β} :
  x.map f = .ok b ↔ ∃ a, x = .ok a ∧ f a = b
  := by
  cases x <;> simp [Except.map]

theorem mapError_eq_ok_iff {α ε ε' : Type} {x : Except ε α} {f : ε → ε'} {a : α} :
  x.mapError f = .ok a ↔ x = .ok a
  := by
  cases x <;> simp [Except.mapError]

section Mapping

variable {α β ε : Type} {f : α → Except ε β}

theorem mapM_cons_eq_ok_iff {a : α} {as : List α} {bs : List β} :
  (a :: as).mapM f = .ok bs
    ↔ ∃ b, f a = .ok b ∧ ∃ bs', as.mapM f = .ok bs' ∧ b :: bs' = bs
  := by
  simp only [List.mapM_cons, bind_eq_ok_iff, pure, Except.pure, Except.ok.injEq]

/-- What a list is mapped to comes from its items. -/
theorem exists_mem_of_mapM {as : List α} {bs : List β} (h : as.mapM f = .ok bs) {b : β}
    (hb : b ∈ bs) :
  ∃ a ∈ as, f a = .ok b
  := by
  induction as generalizing bs with
  | nil =>
    cases h
    cases hb
  | cons a as ih =>
    obtain ⟨c, hc, cs, hcs, rfl⟩ := mapM_cons_eq_ok_iff.mp h
    rcases List.mem_cons.mp hb with rfl | hb
    · exact ⟨a, by simp, hc⟩
    · obtain ⟨a', ha', hb'⟩ := ih hcs hb
      exact ⟨a', by simp [ha'], hb'⟩

/-- What an item is mapped to is in the list. -/
theorem exists_mem_mapM {as : List α} {bs : List β} (h : as.mapM f = .ok bs) {a : α}
    (ha : a ∈ as) :
  ∃ b ∈ bs, f a = .ok b
  := by
  induction as generalizing bs with
  | nil => cases ha
  | cons a' as ih =>
    obtain ⟨b, hb, bs, hbs, rfl⟩ := mapM_cons_eq_ok_iff.mp h
    rcases List.mem_cons.mp ha with rfl | ha
    · exact ⟨b, by simp, hb⟩
    · obtain ⟨c, hc, hac⟩ := ih hbs ha
      exact ⟨c, by simp [hc], hac⟩

/-- A list fails to be mapped as the first of its items that fails. -/
theorem mapM_eq_error_iff {fault? : α → Option ε}
    (hf : ∀ a e, f a = .error e ↔ fault? a = some e) {as : List α} {e : ε} :
  as.mapM f = .error e ↔ as.findSome? fault? = some e
  := by
  induction as with
  | nil => simp [pure, Except.pure]
  | cons a as ih =>
    rw [List.mapM_cons, List.findSome?_cons]
    cases ha : f a with
    | error e' =>
      rw [(hf a e').mp ha]
      simp [bind, Except.bind]
    | ok b =>
      have hnone : fault? a = none := by
        apply Option.eq_none_iff_forall_ne_some.mpr
        intro e' he'
        rw [(hf a e').mpr he'] at ha
        cases ha
      rw [hnone]
      cases has : as.mapM f with
      | error e' => simpa [bind, Except.bind, has] using ih
      | ok bs => simpa [bind, Except.bind, pure, Except.pure, has] using ih

/-- What each item keeps when it is mapped, the list keeps. -/
theorem map_eq_map_of_mapM {γ : Type} {g : α → γ} {g' : β → γ}
    (hg : ∀ a b, f a = .ok b → g' b = g a) {as : List α} {bs : List β}
    (h : as.mapM f = .ok bs) :
  bs.map g' = as.map g
  := by
  induction as generalizing bs with
  | nil =>
    cases h
    rfl
  | cons a as ih =>
    obtain ⟨b, hb, bs, hbs, rfl⟩ := mapM_cons_eq_ok_iff.mp h
    rw [List.map_cons, List.map_cons, hg a b hb, ih hbs]

theorem mapM_map {γ : Type} (f : α → Except ε β) (g : β → γ) (as : List α) :
  (as.mapM fun a => (f a).map g) = (as.mapM f).map (List.map g)
  := by
  induction as with
  | nil => rfl
  | cons a as ih =>
    rw [List.mapM_cons, List.mapM_cons, ih]
    cases f a with
    | error fault => rfl
    | ok b => cases as.mapM f <;> rfl

end Mapping

/-! ### Owners -/

namespace Ownership

theorem has_iff {nodes : List Node} {id : String} :
  has nodes id = true ↔ id ∈ nodes.map Node.id
  := by
  simp [has]

variable {s : Statement}

theorem has_relations_iff {id : String} :
  has (ofStatement s).relations id = true ↔ ∃ n ∈ s.nodes, n.kind.isRelation = true ∧ n.id = id
  := by
  rw [has_iff, ofStatement, Keyed.mem_keys_lasts]
  simp [and_assoc]

theorem has_columns_iff {id : String} :
  has (ofStatement s).columns id = true ↔ ∃ n ∈ s.nodes, n.kind = .column ∧ n.id = id
  := by
  rw [has_iff, ofStatement, Keyed.mem_keys_lasts]
  simp [and_assoc]

theorem nodup_columns (s : Statement) : ((ofStatement s).columns.map Node.id).Nodup :=
  Keyed.nodup_keys_lasts _ _

/-- A column has one owner at most. -/
theorem nodup_owners (s : Statement) : ((ofStatement s).owners.map Prod.fst).Nodup :=
  Keyed.nodup_keys_firsts _ _

/-- A column belongs to the relation that it is listed with. -/
theorem ownerOf?_eq_some_iff {column owner : String} :
  (ofStatement s).ownerOf? column = some owner ↔ (column, owner) ∈ (ofStatement s).owners
  := Keyed.lookup_eq_some_iff_mem (nodup_owners s)

/-- An edge joins a column to an owner if it says so and both are there. -/
theorem ownedBy_eq_some_iff {relations columns : List Node} {e : Edge} {column owner : String} :
  ownedBy relations columns e = some (column, owner)
    ↔ (e.kind = .ownership ∧ has relations e.source = true ∧ has columns e.target = true)
      ∧ e.target = column ∧ e.source = owner
  := by
  unfold ownedBy
  split
  · next h => simp [h]
  · next h => simp [h]

/-- A column has its owner from an edge. -/
theorem exists_edge_of_mem_owners {column owner : String}
    (h : (column, owner) ∈ (ofStatement s).owners) :
  ∃ e ∈ s.edges, e.kind = .ownership ∧ e.source = owner ∧ e.target = column
    ∧ has (ofStatement s).relations owner = true ∧ has (ofStatement s).columns column = true
  := by
  obtain ⟨e, he, hpair⟩ := List.mem_filterMap.mp (Keyed.mem_of_mem_firsts h)
  obtain ⟨⟨hkind, hrelation, hcolumn⟩, rfl, rfl⟩ := ownedBy_eq_some_iff.mp hpair
  exact ⟨e, he, hkind, rfl, rfl, hrelation, hcolumn⟩

/-- Relations own columns. -/
theorem has_of_mem_owners {column owner : String} (h : (column, owner) ∈ (ofStatement s).owners) :
  has (ofStatement s).relations owner = true ∧ has (ofStatement s).columns column = true
  := by
  obtain ⟨-, -, -, -, -, hkinds⟩ := exists_edge_of_mem_owners h
  exact hkinds

/-- An edge that joins a column to a relation gives the column an owner. -/
theorem exists_ownerOf? {e : Edge} (he : e ∈ s.edges) (hkind : e.kind = .ownership)
    (hrelation : has (ofStatement s).relations e.source = true)
    (hcolumn : has (ofStatement s).columns e.target = true) :
  ∃ owner, (ofStatement s).ownerOf? e.target = some owner
  := by
  have hpair : (e.target, e.source)
      ∈ s.edges.filterMap (ownedBy (ofStatement s).relations (ofStatement s).columns) :=
    List.mem_filterMap.mpr
      ⟨e, he, ownedBy_eq_some_iff.mpr ⟨⟨hkind, hrelation, hcolumn⟩, rfl, rfl⟩⟩
  have hkey : e.target ∈ (ofStatement s).owners.map Prod.fst :=
    (Keyed.mem_keys_firsts _ _ _).mpr (List.mem_map_of_mem hpair)
  obtain ⟨⟨column, owner⟩, hmem, rfl⟩ := List.mem_map.mp hkey
  exact ⟨owner, ownerOf?_eq_some_iff.mpr hmem⟩

/-- The relations of a statement are nodes of it. -/
theorem mem_relations {r : Node} (h : r ∈ (ofStatement s).relations) :
  r ∈ s.nodes ∧ r.kind.isRelation = true
  := List.mem_filter.mp (Keyed.mem_of_mem_collect (fun _ _ => Or.inr rfl) h)

theorem nodup_relations (s : Statement) : ((ofStatement s).relations.map Node.id).Nodup :=
  Keyed.nodup_keys_lasts _ _

theorem relation?_eq_some_iff {id : String} {r : Node} :
  (ofStatement s).relation? id = some r ↔ r ∈ (ofStatement s).relations ∧ r.id = id
  := Keyed.find?_eq_some_iff_mem (nodup_relations s)

/-- The columns of a relation in the order of their owners. -/
theorem map_id_owned (s : Statement) (relation : String) :
  ((ofStatement s).owned relation).map Node.id
    = ((ofStatement s).owners.filter (·.2 = relation)).map Prod.fst
  := by
  rw [owned, List.map_filterMap, ← List.filterMap_eq_map]
  apply List.filterMap_congr
  rintro ⟨column, owner⟩ hmem
  obtain ⟨-, hcolumn⟩ := has_of_mem_owners (List.mem_filter.mp hmem).1
  obtain ⟨c, hc, rfl⟩ := List.mem_map.mp (has_iff.mp hcolumn)
  have hfind : (ofStatement s).column? c.id = some c :=
    (Keyed.find?_eq_some_iff_mem (nodup_columns s)).mpr ⟨hc, rfl⟩
  simp [hfind]

/-- The columns of a relation are those that belong to it. -/
theorem mem_owned {column relation : String} :
  column ∈ ((ofStatement s).owned relation).map Node.id
    ↔ (ofStatement s).ownerOf? column = some relation
  := by
  rw [ownerOf?_eq_some_iff, map_id_owned]
  simp

end Ownership

/-! ### Faults -/

/-- Why it cannot be told where a node lives. -/
def Node.fault? (n : Node) : Option QualifiedName.Fault :=
  match n.home with
  | .error fault => some fault
  | .ok _ => none

/-- Why a relation cannot be drawn: the report of the choice that is made for it in a catalog cannot
be shown, or else it cannot be told where it lives. -/
def Node.drawFault? (catalog : Option Catalog) (n : Node) : Option View.Fault :=
  match Catalog.notice catalog n.label n.qualifiedName with
  | .error fault => some (.report fault)
  | .ok _ => n.fault?.map .name

namespace Node

theorem fault?_eq_some_iff {n : Node} {fault : QualifiedName.Fault} :
  n.fault? = some fault ↔ n.home = .error fault
  := by
  cases h : n.home <;> simp [fault?, h]

theorem map_home_eq_error_iff {α : Type} {n : Node} {f : Home → α} {fault : QualifiedName.Fault} :
  n.home.map f = .error fault ↔ n.fault? = some fault
  := by
  cases h : n.home <;> simp [fault?, h, Except.map]

theorem drawFault?_none (n : Node) : n.drawFault? none = n.fault?.map .name := rfl

end Node

/-! ### Places -/

namespace Placement

/-- A node is placed in one of three ways: as a column of its owner, as a column of the output,
or as a relation. -/
theorem place?_cases {p : Placement} {id : String} {place : Place}
    (h : p.place? id = some place) :
  (p.ownership.ownerOf? id = some place.box ∧ place.handle = some id)
    ∨ (Ownership.has p.orphans id = true ∧ place = { box := p.outputId, handle := some id })
    ∨ (Ownership.has p.ownership.relations id = true ∧ place = { box := id })
  := by
  unfold place? at h
  split at h
  · next owner howner =>
    cases h
    exact Or.inl ⟨howner, rfl⟩
  · split at h
    · next horphan =>
      cases h
      exact Or.inr (Or.inl ⟨horphan, rfl⟩)
    · split at h
      · next hrelation =>
        cases h
        exact Or.inr (Or.inr ⟨hrelation, rfl⟩)
      · cases h

theorem handle_eq_of_place? {p : Placement} {id handle : String} {place : Place}
    (h : p.place? id = some place) (hhandle : place.handle = some handle) :
  handle = id
  := by
  rcases place?_cases h with ⟨-, hid⟩ | ⟨-, rfl⟩ | ⟨-, rfl⟩
  · rw [hid] at hhandle
    exact (Option.some.inj hhandle).symm
  · exact (Option.some.inj hhandle).symm
  · cases hhandle

/-- The columns of the output are those without an owner, if the statement only reads or writes to
nothing that is stored. -/
theorem mem_orphans_iff {s : Statement} {n : Node} :
  n ∈ (ofStatement s).orphans
    ↔ (n ∈ (ofStatement s).ownership.columns ∧ (ofStatement s).ownership.ownerOf? n.id = none)
      ∧ (s.isQuery = true ∨ s.writesStored (Ownership.ofStatement s) = false)
  := by
  have hunowned : n ∈ (Ownership.ofStatement s).unowned
      ↔ n ∈ (Ownership.ofStatement s).columns ∧ (Ownership.ofStatement s).ownerOf? n.id = none := by
    simp [Ownership.unowned]
  simp only [ofStatement, Statement.orphans]
  cases s.isQuery <;> cases s.writesStored (Ownership.ofStatement s) <;> simp [hunowned]

theorem mem_orphans {s : Statement} {n : Node} (h : n ∈ (ofStatement s).orphans) :
  n ∈ (ofStatement s).ownership.columns ∧ (ofStatement s).ownership.ownerOf? n.id = none
  := (mem_orphans_iff.mp h).1

/-- Only a column is placed in a box with a handle. -/
theorem has_columns_of_place? {s : Statement} {id handle : String} {place : Place}
    (h : (ofStatement s).place? id = some place) (hhandle : place.handle = some handle) :
  Ownership.has (ofStatement s).ownership.columns id = true
  := by
  rcases place?_cases h with ⟨howner, -⟩ | ⟨horphan, -⟩ | ⟨-, rfl⟩
  · exact (Ownership.has_of_mem_owners (Ownership.ownerOf?_eq_some_iff.mp howner)).2
  · obtain ⟨n, hn, rfl⟩ := List.mem_map.mp (Ownership.has_iff.mp horphan)
    rw [Ownership.has_iff]
    apply List.mem_map_of_mem (mem_orphans hn).1
  · cases hhandle

/-- Whether there is a box of an id: a relation has one, and the output if it has columns. -/
def Draws (p : Placement) (id : String) : Prop :=
  Ownership.has p.ownership.relations id = true ∨ p.orphans ≠ [] ∧ id = p.outputId

/-- A node is placed in a box that is drawn. -/
theorem draws_of_place? {s : Statement} {id : String} {place : Place}
    (h : (ofStatement s).place? id = some place) :
  (ofStatement s).Draws place.box
  := by
  rcases place?_cases h with ⟨howner, -⟩ | ⟨horphan, rfl⟩ | ⟨hrelation, rfl⟩
  · apply Or.inl
    exact (Ownership.has_of_mem_owners (Ownership.ownerOf?_eq_some_iff.mp howner)).1
  · refine Or.inr ⟨?_, rfl⟩
    intro hnil
    simp [hnil, Ownership.has] at horphan
  · exact Or.inl hrelation

/-! ### Boxes -/

theorem mem_drawOrder {p : Placement} {n : Node} :
  n ∈ p.drawOrder ↔ n ∈ p.ownership.relations
  := by
  by_cases h : n.kind = .cte <;> simp [drawOrder, h]

theorem box_eq_ok_iff {p : Placement} {options : Options} {n : Node} {b : Box} :
  p.box options n = .ok b
    ↔ ∃ shown, p.completed options n = .ok shown
      ∧ ∃ home, n.home = .ok home ∧ p.relationBox options n shown home = b
  := by
  simp only [box, bind_eq_ok_iff, mapError_eq_ok_iff, pure, Except.pure, Except.ok.injEq]

/-- A relation has no box exactly if there is a fault with drawing it. -/
theorem box_eq_error_iff {p : Placement} {options : Options} {n : Node} {fault : View.Fault} :
  p.box options n = .error fault ↔ n.drawFault? options.catalog = some fault
  := by
  unfold box completed Catalog.complete Node.drawFault? Node.fault?
  cases Catalog.notice options.catalog n.label n.qualifiedName with
  | error cause => simp [bind, Except.bind, Except.map, Except.mapError]
  | ok notice =>
    cases n.home <;>
      simp [bind, Except.bind, Except.map, Except.mapError, pure, Except.pure]

theorem boxes_eq_ok_iff {p : Placement} {options : Options} {bs : List Box} :
  p.boxes options = .ok bs
    ↔ ∃ relations, p.drawOrder.mapM (p.box options) = .ok relations
      ∧ relations ++ (if p.orphans.isEmpty then [] else [p.outputBox options]) = bs
  := by
  simp only [boxes, bind_eq_ok_iff, pure, Except.pure, Except.ok.injEq]

/-- Boxes fail to be drawn as the first of the relations with a fault. -/
theorem boxes_eq_error_iff {p : Placement} {options : Options} {fault : View.Fault} :
  p.boxes options = .error fault
    ↔ p.drawOrder.findSome? (Node.drawFault? options.catalog) = some fault
  := by
  rw [← mapM_eq_error_iff (f := p.box options) fun n e => box_eq_error_iff]
  unfold boxes
  cases p.drawOrder.mapM (p.box options) <;> simp [bind, Except.bind, pure, Except.pure]

/-- Boxes are drawn unless there is a fault with drawing some relation. -/
theorem exists_fault_of_boxes {s : Statement} {options : Options} {fault : View.Fault}
    (h : (ofStatement s).boxes options = .error fault) :
  ∃ n ∈ s.nodes, n.kind.isRelation = true ∧ n.drawFault? options.catalog = some fault
  := by
  obtain ⟨n, hn, hfault⟩ := List.exists_of_findSome?_eq_some (boxes_eq_error_iff.mp h)
  obtain ⟨hnode, hkind⟩ := Ownership.mem_relations (mem_drawOrder.mp hn)
  exact ⟨n, hnode, hkind, hfault⟩

/-- Without a catalog, boxes are drawn unless it cannot be told where some relation lives. -/
theorem exists_home_fault_of_boxes {s : Statement} {options : Options}
    (hcatalog : options.catalog = none) {fault : View.Fault}
    (h : (ofStatement s).boxes options = .error fault) :
  ∃ cause, fault = .name cause ∧ ∃ n ∈ s.nodes, n.kind.isRelation = true ∧ n.home = .error cause
  := by
  obtain ⟨n, hn, hkind, hfault⟩ := exists_fault_of_boxes h
  rw [hcatalog, Node.drawFault?_none, Option.map_eq_some_iff] at hfault
  obtain ⟨cause, hcause, rfl⟩ := hfault
  exact ⟨cause, rfl, n, hn, hkind, Node.fault?_eq_some_iff.mp hcause⟩

/-- A box is that of a relation or that of the output. -/
theorem mem_boxes {p : Placement} {options : Options} {bs : List Box}
    (h : p.boxes options = .ok bs) {b : Box} (hb : b ∈ bs) :
  (∃ n ∈ p.ownership.relations, ∃ shown home, p.completed options n = .ok shown
      ∧ b = p.relationBox options n shown home)
    ∨ p.orphans ≠ [] ∧ b = p.outputBox options
  := by
  obtain ⟨relations, hrelations, rfl⟩ := boxes_eq_ok_iff.mp h
  rcases List.mem_append.mp hb with hb | hb
  · obtain ⟨n, hn, hbox⟩ := exists_mem_of_mapM hrelations hb
    obtain ⟨shown, hshown, home, -, rfl⟩ := box_eq_ok_iff.mp hbox
    exact Or.inl ⟨n, mem_drawOrder.mp hn, shown, home, hshown, rfl⟩
  · split at hb
    · cases hb
    · next horphans => exact Or.inr ⟨by simpa using horphans, by simpa using hb⟩

/-- The boxes come in the order of the relations, with the output last. -/
theorem map_id_boxes {p : Placement} {options : Options} {bs : List Box}
    (h : p.boxes options = .ok bs) :
  bs.map Box.id = p.drawOrder.map Node.id ++ if p.orphans.isEmpty then [] else [p.outputId]
  := by
  obtain ⟨relations, hrelations, rfl⟩ := boxes_eq_ok_iff.mp h
  have hid : ∀ (n : Node) (b : Box), p.box options n = .ok b → b.id = n.id := by
    intro n b hbox
    obtain ⟨shown, -, home, -, rfl⟩ := box_eq_ok_iff.mp hbox
    rfl
  rw [List.map_append, map_eq_map_of_mapM hid hrelations]
  split <;> rfl

/-- There is a box of an id exactly if one is to be drawn. -/
theorem mem_map_id_boxes {p : Placement} {options : Options} {bs : List Box}
    (h : p.boxes options = .ok bs) {id : String} :
  id ∈ bs.map Box.id ↔ p.Draws id
  := by
  rw [map_id_boxes h, List.mem_append, Draws, Ownership.has_iff]
  apply or_congr
  · simp [mem_drawOrder]
  · by_cases horphans : p.orphans = [] <;> simp [horphans]

theorem nodup_drawOrder (s : Statement) : ((ofStatement s).drawOrder.map Node.id).Nodup := by
  have hperm : (ofStatement s).drawOrder.Perm (ofStatement s).ownership.relations := by
    have hsplit := List.filter_append_perm (fun n : Node => n.kind ≠ .cte)
      (ofStatement s).ownership.relations
    simpa [drawOrder] using hsplit
  apply (hperm.map Node.id).nodup_iff.mpr
  apply Ownership.nodup_relations

/-- No two boxes share an id, if the output has one that no relation has. -/
theorem nodup_map_id_boxes {s : Statement}
    (houtput : (ofStatement s).orphans ≠ [] →
      ∀ n ∈ s.nodes, n.kind.isRelation = true → n.id ≠ (ofStatement s).outputId)
    {options : Options} {bs : List Box} (h : (ofStatement s).boxes options = .ok bs) :
  (bs.map Box.id).Nodup
  := by
  rw [map_id_boxes h]
  split
  · simpa using nodup_drawOrder s
  · next horphans =>
    rw [← List.concat_eq_append]
    apply List.Nodup.concat _ (nodup_drawOrder s)
    intro hmem
    obtain ⟨n, hn, hid⟩ := List.mem_map.mp hmem
    have hrelation : Ownership.has (Ownership.ofStatement s).relations n.id = true :=
      Ownership.has_iff.mpr (List.mem_map_of_mem (mem_drawOrder.mp hn))
    obtain ⟨m, hm, hkind, hm'⟩ := Ownership.has_relations_iff.mp hrelation
    apply houtput (by simpa using horphans) m hm hkind
    rw [hm', hid]

/-! ### Columns in boxes -/

theorem handles_relationBox {p : Placement} {options : Options} (hcatalog : options.catalog = none)
    {n : Node} {shown : Completed} (hshown : p.completed options n = .ok shown) (home : Home) :
  (p.relationBox options n shown home).handles = (p.ownership.owned n.id).map Node.id
  := by
  have hcolumns : (p.ownership.owned n.id).map Column.ofNode = shown.columns := by
    obtain ⟨notice, -, rfl⟩ := map_eq_ok_iff.mp hshown
    simp [Catalog.unseen, hcatalog]
  simp [Box.handles, Box.columns, Box.table?, relationBox, ← hcolumns, Column.ofNode]

theorem handles_outputBox (p : Placement) (options : Options) :
  (p.outputBox options).handles = p.orphans.map Node.id
  := by
  simp [Box.handles, Box.columns, Box.table?, outputBox, Column.ofNode]

/-- The catalog only adds columns. -/
theorem owned_subset_handles {p : Placement} {options : Options} {n : Node} {shown : Completed}
    (hshown : p.completed options n = .ok shown) (home : Home) :
  (p.ownership.owned n.id).map Node.id ⊆ (p.relationBox options n shown home).handles
  := by
  have hcolumns : (p.ownership.owned n.id).map Column.ofNode ⊆ shown.columns := by
    obtain ⟨notice, -, rfl⟩ := map_eq_ok_iff.mp hshown
    dsimp only
    split
    · apply List.subset_append_left
    · apply List.Subset.refl
  have hids : (p.ownership.owned n.id).map Node.id
      = ((p.ownership.owned n.id).map Column.ofNode).map Column.id := by
    simp [Column.ofNode]
  rw [hids]
  exact List.map_subset Column.id hcolumns

/-- A column with an owner is shown in the box of the owner. -/
theorem exists_relationBox_of_owner {s : Statement} {options : Options} {bs : List Box}
    (h : (ofStatement s).boxes options = .ok bs) {column owner : String}
    (howner : (Ownership.ofStatement s).ownerOf? column = some owner) :
  ∃ n shown home, (ofStatement s).relationBox options n shown home ∈ bs ∧ n.id = owner
    ∧ column ∈ ((ofStatement s).relationBox options n shown home).handles
  := by
  obtain ⟨relations, hrelations, rfl⟩ := boxes_eq_ok_iff.mp h
  have howners := Ownership.has_of_mem_owners (Ownership.ownerOf?_eq_some_iff.mp howner)
  obtain ⟨n, hn, rfl⟩ := List.mem_map.mp (Ownership.has_iff.mp howners.1)
  obtain ⟨b, hb, hbox⟩ := exists_mem_mapM hrelations (mem_drawOrder.mpr hn)
  obtain ⟨shown, hshown, home, -, rfl⟩ := box_eq_ok_iff.mp hbox
  use n, shown, home, List.mem_append_left _ hb, rfl
  apply owned_subset_handles hshown
  apply Ownership.mem_owned.mpr howner

/-- A column is shown in the box that it is placed in. -/
theorem exists_box_of_place? {s : Statement} {options : Options} {bs : List Box}
    (h : (ofStatement s).boxes options = .ok bs) {id handle : String} {place : Place}
    (hplace : (ofStatement s).place? id = some place) (hhandle : place.handle = some handle) :
  ∃ b ∈ bs, b.id = place.box ∧ handle ∈ b.handles
  := by
  obtain rfl := handle_eq_of_place? hplace hhandle
  rcases place?_cases hplace with ⟨howner, -⟩ | ⟨horphan, rfl⟩ | ⟨-, rfl⟩
  · obtain ⟨n, shown, home, hb, hid, hcolumn⟩ := exists_relationBox_of_owner h howner
    exact ⟨_, hb, hid, hcolumn⟩
  · obtain ⟨relations, -, rfl⟩ := boxes_eq_ok_iff.mp h
    have hne : (ofStatement s).orphans ≠ [] := by
      intro hnil
      simp [hnil, Ownership.has] at horphan
    refine ⟨(ofStatement s).outputBox options, by simp [hne], rfl, ?_⟩
    rw [handles_outputBox]
    exact Ownership.has_iff.mp horphan
  · cases hhandle

/-- Without a catalog, the columns in a box are those that are placed there. -/
theorem place?_of_mem_handles {s : Statement} {options : Options}
    (hcatalog : options.catalog = none) {bs : List Box}
    (h : (ofStatement s).boxes options = .ok bs) {b : Box} (hb : b ∈ bs) {column : String}
    (hcolumn : column ∈ b.handles) :
  (ofStatement s).place? column = some { box := b.id, handle := some column }
  := by
  rcases mem_boxes h hb with ⟨n, -, shown, home, hshown, rfl⟩ | ⟨-, rfl⟩
  · rw [handles_relationBox hcatalog hshown] at hcolumn
    have howner : (ofStatement s).ownership.ownerOf? column = some n.id :=
      Ownership.mem_owned.mp hcolumn
    simp [place?, howner, relationBox]
  · rw [handles_outputBox] at hcolumn
    have hnone : (ofStatement s).ownership.ownerOf? column = none := by
      obtain ⟨c, hc, rfl⟩ := List.mem_map.mp hcolumn
      exact (mem_orphans hc).2
    simp [place?, hnone, Ownership.has_iff.mpr hcolumn, outputBox]

/-! ### Elements -/

/-- The box that an element is in: the one that it is placed in, or else itself. -/
def boxOf (p : Placement) (element : String) : String :=
  (p.place? element).elim element Place.box

theorem boxOf_of_place? {p : Placement} {element : String} {place : Place}
    (h : p.place? element = some place) :
  p.boxOf element = place.box
  := by
  simp [boxOf, h]

/-- A box is in itself, if no two nodes share an id and the output has an id of its own. -/
theorem boxOf_of_draws {s : Statement} (hids : (s.nodes.map Node.id).Nodup)
    (houtput : ∀ n ∈ s.nodes, n.kind.isRelation = true ∨ n.kind = .column →
      n.id ≠ (ofStatement s).outputId)
    {id : String} (h : (ofStatement s).Draws id) :
  (ofStatement s).boxOf id = id
  := by
  cases hplace : (ofStatement s).place? id with
  | none => simp [boxOf, hplace]
  | some place =>
    have hcolumn : ¬Ownership.has (ofStatement s).ownership.columns id = true := by
      intro hcolumn
      obtain ⟨c, hc, hkind, hid⟩ := Ownership.has_columns_iff.mp hcolumn
      rcases h with hrelation | ⟨-, rfl⟩
      · obtain ⟨n, hn, hkind', rfl⟩ := Ownership.has_relations_iff.mp hrelation
        obtain rfl : c = n := List.inj_on_of_nodup_map hids hc hn hid
        rw [hkind] at hkind'
        cases hkind'
      · apply houtput c hc (Or.inr hkind) hid
    rw [boxOf_of_place? hplace]
    cases hhandle : place.handle with
    | some handle => exact absurd (has_columns_of_place? hplace hhandle) hcolumn
    | none =>
      rcases place?_cases hplace with ⟨-, hid⟩ | ⟨-, rfl⟩ | ⟨-, rfl⟩
      · rw [hid] at hhandle
        cases hhandle
      · cases hhandle
      · rfl

/-! ### Connections -/

/-- An edge makes a connection if both of its ends have places, in different boxes. -/
theorem connection?_eq_some_iff {p : Placement} {e : Edge} {c : Connection} :
  p.connection? e = some c
    ↔ c.edge = e ∧ p.place? e.source = some c.source ∧ p.place? e.target = some c.target
      ∧ c.source.box ≠ c.target.box
  := by
  obtain ⟨edge, source, target⟩ := c
  cases hsource : p.place? e.source with
  | none => simp [connection?, hsource]
  | some x =>
    cases htarget : p.place? e.target with
    | none => simp [connection?, hsource, htarget]
    | some y =>
      simp only [connection?, hsource, htarget, Option.some.injEq]
      split <;> grind

theorem mem_connections {p : Placement} {kinds : EdgeKind → Bool} {c : Connection} :
  c ∈ p.connections kinds
    ↔ c.edge ∈ p.statement.edges ∧ kinds c.edge.kind = true
      ∧ p.place? c.edge.source = some c.source ∧ p.place? c.edge.target = some c.target
      ∧ c.source.box ≠ c.target.box
  := by
  simp only [connections, List.mem_filterMap, List.mem_filter, connection?_eq_some_iff]
  constructor
  · rintro ⟨e, ⟨he, hkind⟩, rfl, h⟩
    exact ⟨he, hkind, h⟩
  · rintro ⟨he, hkind, h⟩
    exact ⟨c.edge, ⟨he, hkind⟩, rfl, h⟩

end Placement

end Lineage
