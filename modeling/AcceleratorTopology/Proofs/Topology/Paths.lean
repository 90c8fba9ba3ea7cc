import AcceleratorTopology.Proofs.Topology.Tree
import AcceleratorTopology.Topology.Outline

/-!
# Paths in a tree

In a tree one path leads from the root down to each object, and the walk up from an object ends at
the root after as many links as the object is deep. The outline goes down all links.
-/

namespace AcceleratorTopology.Topology

/-- A path down from the root along the links to children, by the objects that it comes through
below the root; the last of these is the one that it leads to. -/
inductive PathTo (t : Topology) : List ObjectId → ObjectId → Prop
  | root : PathTo t [] root
  | child {path : List ObjectId} {p c : ObjectId} (h : PathTo t path p) (hc : c ∈ t.childLinks p) :
    PathTo t (path ++ [c]) c

/-- The object that is so many links above another one. -/
def climb? (t : Topology) : Nat → ObjectId → Option ObjectId
  | 0, id => some id
  | links + 1, id => (t.parent? id).bind (t.climb? links)

/-- An object that is below nothing has depth zero. -/
theorem depth_of_parent?_eq_none {t : Topology} {id : ObjectId} (h : t.parent? id = none) :
    t.depth id = 0 := by
  rw [parent?] at h
  rw [depth, h]

/-- An object is one link deeper than the one that it is below. -/
theorem depth_of_parent? {t : Topology} {id p : ObjectId} (h : t.parent? id = some p)
    (hlt : p.index < id.index) : t.depth id = t.depth p + 1 := by
  rw [parent?] at h
  rw [depth, h]
  exact if_pos hlt

namespace IsTree

variable {t : Topology}

/-- What holds of the root, and of an object if it holds of the one above it, holds of all objects
of a tree. -/
theorem induction_down (ht : t.IsTree) {motive : ObjectId → Prop} (hroot : motive root)
    (below : ∀ id p, t.parent? id = some p → p.index < id.index → motive p → motive id)
    (id : ObjectId) (hid : id.index < t.size) : motive id := by
  induction hn : id.index using Nat.strongRecOn generalizing id with
  | ind n ih =>
    by_cases he : id = root
    · rw [he]
      exact hroot
    · obtain ⟨p, hp, hlt⟩ := ht.parent_lt id hid he
      exact below id p hp hlt (ih p.index (hn ▸ hlt) p (Nat.lt_trans hlt hid) rfl)

/-- A path leads to each object of a tree. -/
theorem exists_pathTo (ht : t.IsTree) {id : ObjectId} (hid : id.index < t.size) :
    ∃ path, t.PathTo path id := by
  refine ht.induction_down (motive := fun id ↦ ∃ path, t.PathTo path id) ⟨[], .root⟩ ?_ id hid
  rintro id p hp - ⟨path, hpath⟩
  exact ⟨path ++ [id], hpath.child ((ht.mem_children p id).mpr hp)⟩

/-- No two paths lead to the same object of a tree. -/
theorem eq_of_pathTo (ht : t.IsTree) {id : ObjectId} {path path' : List ObjectId}
    (h : t.PathTo path id) (h' : t.PathTo path' id) : path = path' := by
  induction h generalizing path' with
  | root =>
    cases h' with
    | root => rfl
    | @child _ p _ _ hc =>
      have hp := (ht.mem_children p root).mp hc
      rw [ht.parent_root] at hp
      cases hp
  | @child path p c _ hc ih =>
    have hp := (ht.mem_children p c).mp hc
    cases h' with
    | root =>
      rw [ht.parent_root] at hp
      cases hp
    | @child _ p' _ hpath hc' =>
      have hp' := (ht.mem_children p' c).mp hc'
      rw [hp, Option.some.injEq] at hp'
      subst hp'
      rw [ih hpath]

/-- The walk up from an object of a tree ends at the root, after as many links as the object is
deep. -/
theorem climb?_depth (ht : t.IsTree) {id : ObjectId} (hid : id.index < t.size) :
    t.climb? (t.depth id) id = some root := by
  refine ht.induction_down (motive := fun id ↦ t.climb? (t.depth id) id = some root) ?_ ?_ id hid
  · rw [depth_of_parent?_eq_none ht.parent_root]
    rfl
  · intro id p hp hlt ih
    rw [depth_of_parent? hp hlt, climb?, hp]
    exact ih

/-- The walk up from an object of a tree is at the root after no other number of links. -/
theorem climb?_eq_root_iff (ht : t.IsTree) {id : ObjectId} (hid : id.index < t.size) (links : Nat) :
    t.climb? links id = some root ↔ links = t.depth id := by
  constructor
  · refine ht.induction_down
      (motive := fun id ↦ ∀ links, t.climb? links id = some root → links = t.depth id) ?_ ?_ id hid
      links
    · intro links hclimb
      rw [depth_of_parent?_eq_none ht.parent_root]
      cases links with
      | zero => rfl
      | succ links =>
        rw [climb?, ht.parent_root] at hclimb
        cases hclimb
    · intro id p hp hlt ih links hclimb
      rw [depth_of_parent? hp hlt]
      cases links with
      | zero =>
        rw [climb?, Option.some.injEq] at hclimb
        rw [hclimb, ht.parent_root] at hp
        cases hp
      | succ links =>
        rw [climb?, hp, Option.bind_some] at hclimb
        rw [ih links hclimb]
  · rintro rfl
    exact ht.climb?_depth hid

/-- The outline leaves out no child: in a tree each joined after the object that it is below. -/
theorem childrenOf_eq (ht : t.IsTree) (id : ObjectId) : t.childrenOf id = t.childLinks id := by
  have hall : ∀ c ∈ t.childLinks id, id.index < c.index ∧ c.index < t.size := by
    intro c hc
    have hp := (ht.mem_children id c).mp hc
    have hthere := lt_size_of_parent? hp
    have hne : c ≠ root := by
      rintro rfl
      rw [ht.parent_root] at hp
      cases hp
    obtain ⟨p, hp', hlt⟩ := ht.parent_lt c hthere hne
    rw [hp, Option.some.injEq] at hp'
    exact ⟨hp' ▸ hlt, hthere⟩
  rw [childLinks] at hall ⊢
  rw [childrenOf]
  cases ho : t.get? id with
  | none => rfl
  | some o =>
    rw [ho] at hall
    refine List.filter_eq_self.mpr fun c hc ↦ ?_
    obtain ⟨hafter, hthere⟩ := hall c hc
    simp only [hafter, hthere, decide_true, Bool.and_self]

end IsTree

end AcceleratorTopology.Topology
