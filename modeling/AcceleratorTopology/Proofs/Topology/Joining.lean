import AcceleratorTopology.Proofs.Lists
import AcceleratorTopology.Proofs.Topology.Tree
import Mathlib.Data.List.Nodup

/-!
# Devices that join

What becomes of a topology when a device with its subdevices joins below an object that is there:
that object has one more child, the new objects follow all others, and nothing else changes.
-/

namespace AcceleratorTopology

open Vendor

namespace Object

/-- The object of a sheet, right after it has joined below another object. -/
def joined (parent : ObjectId) (s : Sheet) : Object :=
  { Object.ofSheet .coprocessor s with parent := some parent }

/-- An object with further children, the last ones. -/
def adopt (o : Object) (added : List ObjectId) : Object :=
  { o with children := o.children ++ added }

/-- Adding no children changes nothing. -/
theorem adopt_nil (o : Object) : o.adopt [] = o := by
  rw [adopt, List.append_nil]

/-- Children can be added in one go. -/
theorem adopt_adopt (o : Object) (first second : List ObjectId) :
    (o.adopt first).adopt second = o.adopt (first ++ second) := by
  rw [adopt, adopt, adopt, List.append_assoc]

end Object

namespace Topology

/-- The identities of further objects, the first one apart. -/
theorem nextIds_succ (t : Topology) (parent : ObjectId) (s : Sheet) (count : Nat) :
    t.nextIds (count + 1) = t.nextId :: (t.insertSheet parent s).nextIds count := by
  rw [nextIds, nextIds, List.range_succ_eq_map, List.map_cons, List.map_map, insertSheet,
    size_insert]
  congr 1
  apply List.map_congr_left
  intro k _
  rw [Function.comp_apply, Nat.succ_eq_add_one, Nat.add_right_comm, Nat.add_assoc]

/-- The objects once one more has joined. -/
theorem objects_insertSheet (t : Topology) {parent : ObjectId} (h : parent.index < t.size)
    (s : Sheet) :
    (t.insertSheet parent s).objects =
      t.objects.modify parent.index (·.adopt [t.nextId]) ++ [.joined parent s] :=
  modify_append_of_lt h _ _

/-- The objects once several more have joined below the same one. -/
theorem objects_insertSheets (t : Topology) {parent : ObjectId} (h : parent.index < t.size)
    (sheets : List Sheet) :
    (t.insertSheets parent sheets).objects =
      t.objects.modify parent.index (·.adopt (t.nextIds sheets.length)) ++
        sheets.map (.joined parent) := by
  induction sheets generalizing t with
  | nil =>
    have hnone : (fun o : Object ↦ o.adopt (t.nextIds 0)) = id := funext Object.adopt_nil
    rw [List.length_nil, hnone, List.modify_id, List.map_nil, List.append_nil]
    rfl
  | cons s sheets ih =>
    have hlater : parent.index < (t.insertSheet parent s).size := by
      rw [insertSheet, size_insert]
      omega
    have hthere : parent.index < (t.objects.modify parent.index (·.adopt [t.nextId])).length := by
      rw [List.length_modify]
      exact h
    have hboth : (fun o : Object ↦ o.adopt ((t.insertSheet parent s).nextIds sheets.length)) ∘
        (fun o : Object ↦ o.adopt [t.nextId]) =
          fun o : Object ↦ o.adopt (t.nextIds (sheets.length + 1)) := by
      funext o
      rw [Function.comp_apply, Object.adopt_adopt, nextIds_succ t parent s]
      rfl
    have hrest := ih (t.insertSheet parent s) hlater
    rw [objects_insertSheet t h, modify_append_of_lt hthere, List.modify_modify_eq, hboth,
      List.append_assoc] at hrest
    exact hrest

/-- No two objects have the same identity. -/
theorem nodup_ids (t : Topology) : t.ids.Nodup :=
  List.nodup_range.map fun _ _ ↦ congrArg ObjectId.index

/-- The identities once a topology has grown. -/
theorem ids_of_size {t t' : Topology} {count : Nat} (h : t'.size = t.size + count) :
    t'.ids = t.ids ++ t.nextIds count := by
  rw [ids, h, List.range_add, List.map_append, List.map_map]
  rfl

private theorem retentions_insertSheets (t : Topology) (parent : ObjectId) (sheets : List Sheet) :
    (t.insertSheets parent sheets).retentions = t.retentions := by
  induction sheets generalizing t with
  | nil => rfl
  | cons s sheets ih => exact ih (t.insertSheet parent s)

/-- A joining device keeps the retentions. -/
theorem retentions_insertDevice (t : Topology) (parent : ObjectId) (d : Description) :
    (t.insertDevice parent d).1.retentions = t.retentions :=
  retentions_insertSheets (t.insertSheet parent d.whole) t.nextId d.parts

section InsertDevice

variable (t : Topology) {parent : ObjectId} (h : parent.index < t.size) (d : Description)
include h

/-- The objects once a device and its subdevices have joined. -/
theorem objects_insertDevice :
    (t.insertDevice parent d).1.objects =
      t.objects.modify parent.index (·.adopt [t.nextId]) ++
        (Object.joined parent d.whole).adopt (t.insertDevice parent d).2.subdevices ::
          d.parts.map (.joined t.nextId) := by
  have hwhole : t.nextId.index < (t.insertSheet parent d.whole).size := by
    rw [insertSheet, size_insert]
    exact Nat.lt_succ_self _
  have hlength : t.nextId.index = (t.objects.modify parent.index (·.adopt [t.nextId])).length := by
    rw [List.length_modify]
    rfl
  rw [insertDevice, objects_insertSheets _ hwhole, objects_insertSheet t h, hlength,
    modify_append_length, List.append_assoc]
  rfl

/-- The identities once a device and its subdevices have joined. -/
theorem ids_insertDevice :
    (t.insertDevice parent d).1.ids =
      t.ids ++ (t.insertDevice parent d).2.object :: (t.insertDevice parent d).2.subdevices := by
  have hsize : (t.insertDevice parent d).1.size = t.size + (d.parts.length + 1) := by
    rw [size, objects_insertDevice t h d, List.length_append, List.length_modify, List.length_cons,
      List.length_map, size]
  rw [ids_of_size hsize, nextIds_succ t parent d.whole]
  rfl

/-- Of the objects that are there only the one above a joining device changes. -/
theorem get?_insertDevice_of_lt {id : ObjectId} (hid : id.index < t.size) :
    (t.insertDevice parent d).1.get? id =
      if id = parent then (t.get? id).map (·.adopt [t.nextId]) else t.get? id := by
  have hlt : id.index < (t.objects.modify parent.index (·.adopt [t.nextId])).length := by
    rw [List.length_modify]
    exact hid
  rw [get?, objects_insertDevice t h d, List.getElem?_append_left hlt]
  exact (get?_modify t parent id (·.adopt [t.nextId])).trans (if_congr eq_comm rfl rfl)

/-- The object of a device that has joined. -/
theorem get?_insertDevice_object :
    (t.insertDevice parent d).1.get? (t.insertDevice parent d).2.object =
      some ((Object.joined parent d.whole).adopt (t.insertDevice parent d).2.subdevices) := by
  have hlength : (t.insertDevice parent d).2.object.index =
      (t.objects.modify parent.index (·.adopt [t.nextId])).length := by
    rw [List.length_modify]
    rfl
  rw [get?, objects_insertDevice t h d, hlength, List.getElem?_append_right (Nat.le_refl _),
    Nat.sub_self, List.getElem?_cons_zero]

/-- The object of a subdevice that has joined with its device. -/
theorem get?_insertDevice_part {id : ObjectId} (hid : id ∈ (t.insertDevice parent d).2.subdevices) :
    ∃ s ∈ d.parts, (t.insertDevice parent d).1.get? id =
      some (.joined (t.insertDevice parent d).2.object s) := by
  obtain ⟨k, hk, rfl⟩ := List.mem_map.mp hid
  have hpart : k < d.parts.length := List.mem_range.mp hk
  have hsize : (t.insertSheet parent d.whole).size + k =
      (t.objects.modify parent.index (·.adopt [t.nextId])).length + (k + 1) := by
    rw [insertSheet, size_insert, List.length_modify, size]
    omega
  refine ⟨d.parts[k], List.getElem_mem hpart, ?_⟩
  rw [get?, objects_insertDevice t h d, hsize, List.getElem?_append_right (Nat.le_add_right _ _),
    Nat.add_sub_cancel_left, List.getElem?_cons_succ, List.getElem?_map,
    List.getElem?_eq_getElem hpart]
  rfl

end InsertDevice

end Topology

end AcceleratorTopology
