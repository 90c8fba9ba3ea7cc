import AcceleratorTopology.Proofs.Topology.Tree
import Mathlib.Logic.Relation

/-!
# Edits of a topology

Whatever happens to a topology comes down to three kinds of edits: an object joins below one that is
there, an object changes in place but for its links, or the retention of a kind is set. What every
edit keeps, also whole devices that are placed keep: these are attached by the joining of objects
and by link speeds. Edits keep trees, and they keep the children of an object in the order in which
these joined.
-/

namespace AcceleratorTopology.Topology

open Vendor

/-- One edit of a topology. The links that a new object brings along do not matter. -/
inductive Edit : Topology → Topology → Prop
  | insert {t : Topology} {parent : ObjectId} (h : parent.index < t.size) (o : Object) :
    Edit t (t.insert parent o)
  | write (t : Topology) (id : ObjectId) {f : Object → Object} (hp : ∀ o, (f o).parent = o.parent)
    (hc : ∀ o, (f o).children = o.children) : Edit t (t.modify id f)
  | retain (t : Topology) (kind : ObjectKind) (value : Retention) :
    Edit t (t.setRetention kind value)

/-- Any number of edits, one after another. -/
abbrev Edits : Topology → Topology → Prop := Relation.ReflTransGen Edit

/-- No edit removes an object. -/
theorem Edit.size_le {t t' : Topology} (h : Edit t t') : t.size ≤ t'.size := by
  cases h with
  | insert h o =>
    rw [size_insert]
    exact Nat.le_succ _
  | write id hp hc => exact Nat.le_of_eq (size_modify t id _).symm
  | retain kind value => exact Nat.le_refl _

/-- No edits remove an object. -/
theorem size_le_of_edits {t t' : Topology} (h : Edits t t') : t.size ≤ t'.size := by
  induction h with
  | refl => exact Nat.le_refl _
  | tail _ hlast ih => exact Nat.le_trans ih hlast.size_le

/-- What a device does to a topology that it joins: an object joins for it or for a subdevice, below
one that is there, or the speed of a link is set. -/
inductive Attachment : Topology → Topology → Prop
  | insertSheet {t : Topology} {parent : ObjectId} (h : parent.index < t.size) (s : Sheet) :
    Attachment t (t.insertSheet parent s)
  | setLinkSpeed (t : Topology) (id : ObjectId) (speed : Binary32) :
    Attachment t (t.setLinkSpeed id speed)

/-- Any number of attachments, one after another. -/
abbrev Attachments : Topology → Topology → Prop := Relation.ReflTransGen Attachment

/-- An attachment is an edit, if it changes anything. -/
theorem Attachment.edits {t t' : Topology} (h : Attachment t t') : Edits t t' := by
  cases h with
  | insertSheet h s => exact .single (.insert h _)
  | setLinkSpeed id speed =>
    unfold Topology.setLinkSpeed
    split
    · exact .single (.write t id (fun _ ↦ rfl) fun _ ↦ rfl)
    · exact .refl

/-- Attachments are edits. -/
theorem edits_of_attachments {t t' : Topology} (h : Attachments t t') : Edits t t' := by
  induction h with
  | refl => exact .refl
  | tail _ hlast ih => exact ih.trans hlast.edits

/-- No attachments remove an object. -/
theorem size_le_of_attachments {t t' : Topology} (h : Attachments t t') : t.size ≤ t'.size :=
  size_le_of_edits (edits_of_attachments h)

private theorem attachments_insertSheets (t : Topology) {parent : ObjectId}
    (h : parent.index < t.size)
    (sheets : List Sheet) : Attachments t (t.insertSheets parent sheets) := by
  induction sheets generalizing t with
  | nil => exact .refl
  | cons s sheets ih =>
    have hfirst : Attachments t (t.insertSheet parent s) := .single (.insertSheet h s)
    exact hfirst.trans (ih _ (Nat.lt_of_lt_of_le h (size_le_of_attachments hfirst)))

private theorem attachments_insertDevice (t : Topology) {parent : ObjectId}
    (h : parent.index < t.size) (d : Description) : Attachments t (t.insertDevice parent d).1 := by
  apply Relation.ReflTransGen.head (.insertSheet h d.whole)
  apply attachments_insertSheets
  rw [insertSheet, size_insert]
  exact Nat.lt_succ_self _

/-- A device is placed by attachments, wherever it is located. -/
theorem attachments_placeDevice (vendor : Answers) {t : Topology} (hroot : 0 < t.size)
    (device : DeviceHandle) (d : Description) :
    Attachments t (placeDevice vendor t device d).value.1 := by
  obtain ⟨located, hlocated, hvalue⟩ := value_placeDevice vendor t device d
  rw [hvalue]
  have hthere {a : Pci.Address} {id : ObjectId} (h : t.place? a = some id) : id.index < t.size := by
    obtain ⟨o, ho, _⟩ := place?_spec h
    exact lt_size_of_get? ho
  cases hlocated with
  | root => exact attachments_insertDevice t hroot d
  | found hplace => exact attachments_insertDevice t (hthere hplace) d
  | @measured _ id hplace speed =>
    apply Relation.ReflTransGen.head (.setLinkSpeed t id speed)
    apply attachments_insertDevice
    rw [size_setLinkSpeed]
    exact hthere hplace

/-- An edit keeps a tree. -/
theorem IsTree.edit {t t' : Topology} (ht : t.IsTree) (h : Edit t t') : t'.IsTree := by
  cases h with
  | insert h o => exact ht.insert h o
  | write id hp hc => exact ht.modify id hp hc
  | retain kind value => exact ⟨ht.size_pos, ht.parent_root, ht.parent_lt, ht.mem_children⟩

/-- Edits keep a tree. -/
theorem IsTree.edits {t t' : Topology} (ht : t.IsTree) (h : Edits t t') : t'.IsTree := by
  induction h with
  | refl => exact ht
  | tail _ hlast ih => exact ih.edit hlast

/-- A tree whose objects list their children in the order in which these joined, hence each child
once. -/
structure IsOrderedTree (t : Topology) : Prop extends t.IsTree where
  ascending : ∀ p, (t.childLinks p).Pairwise fun a b ↦ a.index < b.index

/-- A bare machine is an ordered tree. -/
theorem isOrderedTree_bare : bare.IsOrderedTree where
  toIsTree := isTree_bare
  ascending := by
    intro p
    obtain ⟨p⟩ := p
    cases p with
    | zero => exact List.Pairwise.nil
    | succ p => exact List.Pairwise.nil

/-- An edit keeps an ordered tree: a new child is the last one, and joined last. -/
theorem IsOrderedTree.edit {t t' : Topology} (ht : t.IsOrderedTree) (h : Edit t t') :
    t'.IsOrderedTree := by
  refine ⟨ht.toIsTree.edit h, fun p ↦ ?_⟩
  cases h with
  | insert h o =>
    rw [childLinks_insert t p o h]
    split
    · refine List.pairwise_append.mpr ⟨ht.ascending p, List.pairwise_singleton _ _, ?_⟩
      intro c hc new hnew
      rw [List.mem_singleton.mp hnew]
      exact lt_size_of_parent? ((ht.mem_children p c).mp hc)
    · exact ht.ascending p
  | write id hp hc =>
    rw [childLinks_modify t id hc]
    exact ht.ascending p
  | retain kind value => exact ht.ascending p

/-- Edits keep an ordered tree. -/
theorem IsOrderedTree.edits {t t' : Topology} (ht : t.IsOrderedTree) (h : Edits t t') :
    t'.IsOrderedTree := by
  induction h with
  | refl => exact ht
  | tail _ hlast ih => exact ih.edit hlast

/-- In an ordered tree an object is listed once among the children of the object that it is below,
and nowhere else. -/
theorem IsOrderedTree.count_childLinks {t : Topology} (ht : t.IsOrderedTree) (p c : ObjectId) :
    (t.childLinks p).count c = if t.parent? c = some p then 1 else 0 := by
  have hnodup : (t.childLinks p).Nodup :=
    (ht.ascending p).imp fun hlt ↦ ne_of_apply_ne ObjectId.index (Nat.ne_of_lt hlt)
  simp only [hnodup.count, ht.mem_children p c]

end AcceleratorTopology.Topology
