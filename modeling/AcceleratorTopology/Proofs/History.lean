import AcceleratorTopology.Proofs.Discovery.Growth
import AcceleratorTopology.Proofs.Topology.Paths
import AcceleratorTopology.Scan.Basic

/-!
# The history of a topology

A topology starts as a bare machine. From then on objects are added, one by one, by scans of a
listing of PCI functions and by passes over the devices of a vendor; link speeds and retentions are
set, and objects are written to. Through any such history a topology is a tree, whatever links the
objects bring along.
-/

namespace AcceleratorTopology

open Vendor Settings

namespace Scan

open Files

/-- Objects that have been added so far are there. -/
def Added.Within (added : Added) (t : Topology) : Prop := ∀ a ∈ added, a.2.index < t.size

private theorem Added.Within.parentOf_lt {added : Added} {t : Topology} (h : added.Within t)
    (hroot : 0 < t.size) (e : Entry) : (parentOf added e).index < t.size := by
  rw [parentOf]
  cases hbehind : e.behind.bind fun a ↦ added.lookup a with
  | none => exact hroot
  | some id =>
    obtain ⟨a, -, hlookup⟩ := Option.bind_eq_some_iff.mp hbehind
    obtain ⟨before, after, heq, -⟩ := List.lookup_eq_some_iff.mp hlookup
    refine h (a, id) ?_
    rw [heq]
    exact List.mem_append_right before List.mem_cons_self

private theorem Added.Within.addEntry {state : Topology × Added} (h : state.2.Within state.1)
    (view : View) (e : Entry) : (addEntry view state e).2.Within (addEntry view state e).1 := by
  intro a ha
  rw [Scan.addEntry, Topology.size_insert]
  cases List.mem_cons.mp ha with
  | inl hnew => exact hnew ▸ Nat.lt_succ_self _
  | inr hold => exact Nat.lt_succ_of_lt (h a (List.mem_filter.mp hold).1)

private theorem edits_foldl_addEntry (view : View) (es : List Entry) {state : Topology × Added}
    (hroot : 0 < state.1.size) (h : state.2.Within state.1) :
    state.1.Edits (es.foldl (addEntry view) state).1 := by
  induction es generalizing state with
  | nil => exact .refl
  | cons e es ih =>
    have hedit : Topology.Edit state.1 (addEntry view state e).1 :=
      .insert (h.parentOf_lt hroot e) _
    exact .head hedit (ih (Nat.lt_of_lt_of_le hroot hedit.size_le) (h.addEntry view e))

/-- A scan edits a topology, and does nothing else to it. -/
theorem edits_scan {view : View} {listing : Path} {t t' : Topology} {count : Nat}
    (hroot : 0 < t.size) (h : scan view listing t = .ok (t', count)) : t.Edits t' := by
  unfold scan at h
  split at h
  · cases h
  · cases h
    have hwithin : Added.Within [] t := by
      intro a ha
      cases ha
    exact @edits_foldl_addEntry view _ (t, []) hroot hwithin

end Scan

namespace Topology

/-- What can be done to a topology. A new object may be any, also one that stands in the topology
already and still has its links. Whatever is written to an object leaves its links alone. A scan
that fails does nothing. -/
inductive Step : Topology → Topology → Prop
  | insert {t : Topology} {parent : ObjectId} (h : parent.index < t.size) (o : Object) :
    Step t (t.insert parent o)
  | insertSheet {t : Topology} {parent : ObjectId} (h : parent.index < t.size) (s : Sheet) :
    Step t (t.insertSheet parent s)
  | setLinkSpeed (t : Topology) (id : ObjectId) (speed : Binary32) :
    Step t (t.setLinkSpeed id speed)
  | setRetention (t : Topology) (kind : ObjectKind) (value : Retention) :
    Step t (t.setRetention kind value)
  | write (t : Topology) (id : ObjectId) (f : Object → Object) :
    Step t (t.modify id fun o ↦ { f o with parent := o.parent, children := o.children })
  | scan {t t' : Topology} {view : Files.View} {listing : Files.Path} {count : Nat}
    (h : Scan.scan view listing t = .ok (t', count)) : Step t t'
  | pass (t : Topology) (vendor : Answers) (config : Configuration) (switch : SysmanState)
    (choice : MemoryChoice) : Step t (runPass vendor config switch choice t).value.topology

/-- A step is a number of edits. -/
theorem Step.edits {t t' : Topology} (h : Step t t') (hroot : 0 < t.size) : t.Edits t' := by
  cases h with
  | insert h o => exact .single (.insert h o)
  | insertSheet h s => exact .single (.insert h _)
  | setLinkSpeed id speed => exact (Attachment.setLinkSpeed t id speed).edits
  | setRetention kind value => exact .single (.retain t kind value)
  | write id f => exact .single (.write t id (fun _ ↦ rfl) fun _ ↦ rfl)
  | scan h => exact Scan.edits_scan hroot h
  | pass vendor config switch choice =>
    exact edits_of_attachments (attachments_runPass vendor config switch choice hroot)

/-- A topology that comes about from a bare machine. -/
def Reachable (t : Topology) : Prop := Relation.ReflTransGen Step bare t

/-- What comes about is an ordered tree. -/
theorem Reachable.isOrderedTree {t : Topology} (h : Reachable t) : t.IsOrderedTree := by
  induction h with
  | refl => exact isOrderedTree_bare
  | tail _ hlast ih => exact ih.edits (hlast.edits ih.size_pos)

/-- Whatever its history, a topology is a tree. The root is below nothing, any other object is below
an earlier one, and an object is listed among the children of another exactly if it is below that
one, then once and in the order in which objects joined. Hence exactly one path leads from the root
to each object, and the walk up from an object ends, at the root. -/
theorem reachable_topology_is_tree {t : Topology} (h : Reachable t) :
    t.IsOrderedTree ∧
    (∀ p c, (t.childLinks p).count c = if t.parent? c = some p then 1 else 0) ∧
    ∀ id, id.index < t.size →
      (∃! path, t.PathTo path id) ∧ t.climb? (t.depth id) id = some root := by
  have ht := h.isOrderedTree
  refine ⟨ht, ht.count_childLinks, fun id hid ↦ ⟨?_, ht.climb?_depth hid⟩⟩
  obtain ⟨path, hpath⟩ := ht.exists_pathTo hid
  exact ⟨path, hpath, fun path' hpath' ↦ ht.eq_of_pathTo hpath' hpath⟩

/-- A machine with a card, below which a copy of the machine was added that still lists the card
among its children. -/
def hostWithCopy : Topology :=
  hostWithCard.insert ⟨1⟩ { kind := .machine, children := [⟨1⟩] }

/-- The copy has lost its links, and the device that is found next joins below the card, too. -/
theorem host_with_copy_is_tree :
    let t := (runPass cardVendor {} .enabled ⟨.auto, .unresolved⟩ hostWithCopy).value.topology
    hostWithCard.get? root = some { kind := .machine, children := [⟨1⟩] } ∧
    Reachable t ∧ t.childLinks ⟨1⟩ = [⟨2⟩, ⟨3⟩] ∧ t.childLinks ⟨2⟩ = [] ∧
    t.IsOrderedTree ∧
    (∀ p c, (t.childLinks p).count c = if t.parent? c = some p then 1 else 0) ∧
    ∀ id, id.index < t.size →
      (∃! path, t.PathTo path id) ∧ t.climb? (t.depth id) id = some root := by
  have hcard : Reachable hostWithCard := .single (.insert (by decide) _)
  have hcopy : Reachable hostWithCopy := hcard.tail (.insert (by decide) _)
  have hreach := hcopy.tail (.pass hostWithCopy cardVendor {} .enabled ⟨.auto, .unresolved⟩)
  exact ⟨rfl, hreach, rfl, rfl, reachable_topology_is_tree hreach⟩

end Topology

end AcceleratorTopology
