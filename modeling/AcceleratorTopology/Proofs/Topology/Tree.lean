import AcceleratorTopology.Proofs.Topology.Places

/-!
# Topologies that are trees

The links of a topology, as seen from both ends, and the invariant that they make up a tree whose
objects come after those that they are below. What a discovery does to a topology keeps it.
-/

namespace AcceleratorTopology.Topology

open Vendor

/-- The object that an object is below. -/
def parent? (t : Topology) (id : ObjectId) : Option ObjectId := (t.get? id).bind Object.parent

/-- The links of an object to those right below it. -/
def childLinks (t : Topology) (id : ObjectId) : List ObjectId :=
  ((t.get? id).map Object.children).getD []

/-- The root is below nothing, any other object is below an earlier one, and the links down mirror
the links up. -/
structure IsTree (t : Topology) : Prop where
  size_pos : 0 < t.size
  parent_root : t.parent? root = none
  parent_lt : ∀ id, id.index < t.size → id ≠ root → ∃ p, t.parent? id = some p ∧ p.index < id.index
  mem_children : ∀ p c, c ∈ t.childLinks p ↔ t.parent? c = some p

/-- A bare machine is a tree. -/
theorem isTree_bare : bare.IsTree where
  size_pos := by decide
  parent_root := rfl
  parent_lt := by
    intro id hid hne
    obtain ⟨i⟩ := id
    have hi : i = 0 := Nat.lt_one_iff.mp hid
    exact absurd (congrArg ObjectId.mk hi) hne
  mem_children := by
    intro p c
    obtain ⟨p⟩ := p
    obtain ⟨c⟩ := c
    cases p <;> cases c <;> simp [bare, childLinks, parent?, get?]

/-- Beyond the last object there is none. -/
theorem get?_eq_none {t : Topology} {id : ObjectId} (h : t.size ≤ id.index) : t.get? id = none :=
  List.getElem?_eq_none h

/-- An object that is there is one of so many. -/
theorem lt_size_of_get? {t : Topology} {id : ObjectId} {o : Object} (h : t.get? id = some o) :
    id.index < t.size := (List.getElem?_eq_some_iff.mp h).1

/-- An object that is below another is there. -/
theorem lt_size_of_parent? {t : Topology} {id p : ObjectId} (h : t.parent? id = some p) :
    id.index < t.size := by
  obtain ⟨o, ho, _⟩ := Option.bind_eq_some_iff.mp h
  exact lt_size_of_get? ho

/-- The next object is not there yet. -/
theorem ne_nextId {t : Topology} {id : ObjectId} (h : id.index < t.size) : id ≠ t.nextId := by
  intro he
  rw [he] at h
  exact Nat.lt_irrefl _ h

/-- An object that was there keeps all but its children when another one joins. -/
theorem exists_get?_insert {t : Topology} {parent id : ObjectId} (h : parent.index < t.size)
    {o : Object} (ho : t.get? id = some o) (joining : Object) :
    ∃ children, (t.insert parent joining).get? id = some { o with children := children } := by
  rw [get?_insert _ _ _ h, if_neg (ne_nextId (lt_size_of_get? ho)), ho]
  split
  · exact ⟨_, rfl⟩
  · exact ⟨o.children, rfl⟩

section Links

variable (t : Topology) (id : ObjectId) {parent : ObjectId} (o : Object)

/-- A new object is below the one it joins, all else is below what it was. -/
theorem parent?_insert (h : parent.index < t.size) :
    (t.insert parent o).parent? id = if id = t.nextId then some parent else t.parent? id := by
  rw [parent?, get?_insert t parent o h]
  split
  · rfl
  · split
    · rw [parent?]
      cases t.get? id <;> rfl
    · rfl

/-- A new object joins the children of the one above it as the last one. -/
theorem childLinks_insert (h : parent.index < t.size) :
    (t.insert parent o).childLinks id =
      if id = parent then t.childLinks id ++ [t.nextId] else t.childLinks id := by
  rw [childLinks, get?_insert t parent o h]
  by_cases hn : id = t.nextId
  · have hp : t.nextId ≠ parent := (ne_nextId h).symm
    have hnone : t.get? t.nextId = none := get?_eq_none (Nat.le_refl _)
    rw [hn, if_pos rfl, if_neg hp, childLinks, hnone]
    rfl
  · rw [if_neg hn]
    by_cases hp : id = parent
    · rw [if_pos hp, if_pos hp, childLinks]
      have hthere : id.index < t.objects.length := hp ▸ h
      rw [get?, List.getElem?_eq_getElem hthere]
      rfl
    · rw [if_neg hp, if_neg hp, childLinks]

end Links

/-- A change in place of other things keeps the links upwards. -/
theorem parent?_modify (t : Topology) (id : ObjectId) {f : Object → Object}
    (hf : ∀ o, (f o).parent = o.parent) : (t.modify id f).parent? = t.parent? := by
  funext j
  rw [parent?, parent?, get?_modify]
  split
  · cases t.get? j <;> simp [hf]
  · rfl

/-- A change in place of other things keeps the links downwards. -/
theorem childLinks_modify (t : Topology) (id : ObjectId) {f : Object → Object}
    (hf : ∀ o, (f o).children = o.children) : (t.modify id f).childLinks = t.childLinks := by
  funext j
  rw [childLinks, childLinks, get?_modify]
  split
  · cases t.get? j <;> simp [hf]
  · rfl

/-- A change in place that keeps the links of every object keeps a tree. -/
theorem IsTree.modify {t : Topology} (ht : t.IsTree) (id : ObjectId) {f : Object → Object}
    (hp : ∀ o, (f o).parent = o.parent) (hc : ∀ o, (f o).children = o.children) :
    (t.modify id f).IsTree := by
  have hparent := parent?_modify t id hp
  have hchildren := childLinks_modify t id hc
  constructor
  case size_pos => rw [size_modify]; exact ht.size_pos
  case parent_root => rw [hparent]; exact ht.parent_root
  case parent_lt => rw [size_modify, hparent]; exact ht.parent_lt
  case mem_children => rw [hparent, hchildren]; exact ht.mem_children

/-- Adding an object below one that is there keeps a tree. -/
theorem IsTree.insert {t : Topology} (ht : t.IsTree) {parent : ObjectId} (h : parent.index < t.size)
    (o : Object) : (t.insert parent o).IsTree := by
  constructor
  case size_pos => rw [size_insert]; exact Nat.succ_pos _
  case parent_root =>
    have hroot : root ≠ t.nextId := ne_nextId ht.size_pos
    rw [parent?_insert t root o h, if_neg hroot]
    exact ht.parent_root
  case parent_lt =>
    intro id hid hroot
    rw [parent?_insert t id o h]
    by_cases hn : id = t.nextId
    · rw [if_pos hn]
      exact ⟨parent, rfl, hn ▸ h⟩
    · have hlt : id.index < t.size := by
        have hne : id.index ≠ t.size := fun he ↦ hn (congrArg ObjectId.mk he)
        rw [size_insert] at hid
        omega
      rw [if_neg hn]
      exact ht.parent_lt id hlt hroot
  case mem_children =>
    intro p c
    rw [parent?_insert t c o h, childLinks_insert t p o h]
    have hold := ht.mem_children p c
    by_cases hc : c = t.nextId
    · -- The new object is nobody's child but that of the object it joins.
      have hnone : c ∉ t.childLinks p := by
        intro hm
        exact ne_nextId (lt_size_of_parent? (hold.mp hm)) hc
      rw [if_pos hc, Option.some.injEq]
      by_cases hp : p = parent
      · rw [if_pos hp, hp, hc]
        exact ⟨fun _ ↦ rfl, fun _ ↦ List.mem_append_right _ (List.mem_singleton_self _)⟩
      · rw [if_neg hp]
        exact ⟨fun hm ↦ absurd hm hnone, fun he ↦ absurd he.symm hp⟩
    · rw [if_neg hc, ← hold]
      split
      · rw [List.mem_append, List.mem_singleton, or_iff_left hc]
      · rfl

end AcceleratorTopology.Topology
