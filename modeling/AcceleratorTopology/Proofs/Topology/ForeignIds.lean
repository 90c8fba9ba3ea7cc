import AcceleratorTopology.Proofs.Lists
import AcceleratorTopology.Proofs.Topology.Edits
import AcceleratorTopology.Proofs.Topology.Paths

/-!
# Identities from elsewhere

An identity is a bare position, so one from another topology may be used for a parent. Whether there
is such an object is only checked once the new object is in. So all identities are safe but one:
below an object that is there the topology stays a tree, and beyond the new object the parent is
refused, but at the position of the new object itself that object joins below itself.
-/

namespace AcceleratorTopology.Topology

/-- No object is its own parent or ancestor. -/
def IsAcyclic (t : Topology) : Prop := ∀ id links, t.climb? (links + 1) id ≠ some id

/-- The walk up from every object comes to an end. -/
def WalksEnd (t : Topology) : Prop := ∀ id, ∃ links, t.climb? links id = none

section Tree

variable {t : Topology}

private theorem IsTree.index_lt_of_parent? (ht : t.IsTree) {id p : ObjectId}
    (h : t.parent? id = some p) : p.index < id.index := by
  have hne : id ≠ root := by
    rintro rfl
    rw [ht.parent_root] at h
    cases h
  obtain ⟨q, hq, hlt⟩ := ht.parent_lt id (lt_size_of_parent? h) hne
  rw [h, Option.some.injEq] at hq
  exact hq ▸ hlt

private theorem IsTree.index_lt_of_climb? (ht : t.IsTree) {links : Nat} {id above : ObjectId}
    (h : t.climb? (links + 1) id = some above) : above.index < id.index := by
  induction links generalizing id with
  | zero =>
    rw [climb?] at h
    obtain ⟨p, hp, habove⟩ := Option.bind_eq_some_iff.mp h
    rw [climb?, Option.some.injEq] at habove
    exact habove ▸ ht.index_lt_of_parent? hp
  | succ links ih =>
    rw [climb?] at h
    obtain ⟨p, hp, habove⟩ := Option.bind_eq_some_iff.mp h
    exact Nat.lt_trans (ih habove) (ht.index_lt_of_parent? hp)

/-- There are no cycles in a tree. -/
theorem IsTree.isAcyclic (ht : t.IsTree) : t.IsAcyclic :=
  fun _ _ h ↦ Nat.lt_irrefl _ (ht.index_lt_of_climb? h)

/-- All walks up a tree end. -/
theorem IsTree.walksEnd (ht : t.IsTree) : t.WalksEnd := by
  intro id
  induction hn : id.index using Nat.strongRecOn generalizing id with
  | ind n ih =>
    cases hp : t.parent? id with
    | none => exact ⟨1, by rw [climb?, hp]; rfl⟩
    | some p =>
      obtain ⟨links, hlinks⟩ := ih p.index (hn ▸ ht.index_lt_of_parent? hp) p rfl
      exact ⟨links + 1, by rw [climb?, hp]; exact hlinks⟩

end Tree

private theorem climb?_eq_self {t : Topology} {id : ObjectId} (h : t.parent? id = some id)
    (links : Nat) : t.climb? links id = some id := by
  induction links with
  | zero => rfl
  | succ links ih => rw [climb?, h, Option.bind_some, ih]

section OwnIdentity

variable (t : Topology) (o : Object)

private theorem objects_insert_nextId :
    (t.insert t.nextId o).objects =
      t.objects ++ [{ o with parent := some t.nextId, children := [t.nextId] }] :=
  modify_append_length t.objects _ _

private theorem get?_insert_nextId_self :
    (t.insert t.nextId o).get? t.nextId =
      some { o with parent := some t.nextId, children := [t.nextId] } := by
  rw [get?, objects_insert_nextId]
  exact List.getElem?_concat_length

private theorem get?_insert_nextId_of_ne {id : ObjectId} (h : id ≠ t.nextId) :
    (t.insert t.nextId o).get? id = t.get? id := by
  have hne : id.index ≠ t.objects.length := fun he ↦ h (congrArg ObjectId.mk he)
  rw [get?, objects_insert_nextId, get?]
  by_cases hlt : id.index < t.objects.length
  · exact List.getElem?_append_left hlt
  · rw [List.getElem?_eq_none (by rw [List.length_append, List.length_singleton]; omega),
      List.getElem?_eq_none (by omega)]

private theorem parent?_insert_nextId : (t.insert t.nextId o).parent? t.nextId = some t.nextId := by
  rw [parent?, get?_insert_nextId_self]
  rfl

private theorem not_isTree_insert_nextId : ¬(t.insert t.nextId o).IsTree :=
  fun h ↦ h.isAcyclic t.nextId 0 (climb?_eq_self (t.parent?_insert_nextId o) 1)

end OwnIdentity

/-- An object that joins a tree below any identity, also one from elsewhere. It is refused if the
identity lies beyond its own. Below an object that is there it joins a tree again, and no walk up
runs in a circle. But below its own identity, which is not there before it joins, it is let in: then
it is its own parent, and the walk up from it never ends. -/
theorem joining_below_any_identity {t : Topology} (ht : t.IsTree) (parent : ObjectId) (o : Object) :
    (t.size < parent.index → t.insert? parent o = none) ∧
    (parent.index < t.size → ∃ t', t.insert? parent o = some (t', t.nextId) ∧ t'.IsTree ∧
      (t.IsOrderedTree → t'.IsOrderedTree) ∧ t'.IsAcyclic ∧ t'.WalksEnd) ∧
    (parent = t.nextId → ∃ t', t.insert? parent o = some (t', t.nextId) ∧ ¬t'.IsTree ∧
      t'.parent? t.nextId = some t.nextId ∧ (∀ links, t'.climb? links t.nextId = some t.nextId) ∧
      ∀ id ≠ t.nextId, t'.get? id = t.get? id) := by
  refine ⟨fun hbeyond ↦ ?_, fun hthere ↦ ?_, ?_⟩
  · exact if_neg (Nat.not_le.mpr hbeyond)
  · have htree : (t.insert parent o).IsTree := ht.insert hthere o
    refine ⟨t.insert parent o, if_pos (Nat.le_of_lt hthere), htree, ?_, htree.isAcyclic,
      htree.walksEnd⟩
    exact fun hordered ↦ hordered.edit (.insert hthere o)
  · rintro rfl
    have hself := t.parent?_insert_nextId o
    refine ⟨t.insert t.nextId o, if_pos (Nat.le_refl _), t.not_isTree_insert_nextId o, hself,
      climb?_eq_self hself, ?_⟩
    exact fun id hid ↦ t.get?_insert_nextId_of_ne o hid

/-- The first object of a bare machine below its own identity. -/
example : (bare.insert ⟨1⟩ { kind := .pciDevice }).parent? ⟨1⟩ = some ⟨1⟩ := by decide

end AcceleratorTopology.Topology
