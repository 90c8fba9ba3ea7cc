import AcceleratorTopology.Proofs.Topology.Places
import Mathlib.Data.List.Forall2

/-!
# The sheets in a topology

What objects say of themselves, apart from where they hang. Devices that join bring their sheets
along, after all those that are there, and no sheet ever changes.
-/

namespace AcceleratorTopology

open Vendor

/-- The sheet of an object, if it has a name. -/
def Object.sheet? (o : Object) : Option Sheet :=
  o.name.map fun name ↦ ⟨name, o.subtype, o.attributes⟩

/-- An object has the sheet that its name, subtype and attributes make up. -/
theorem Object.sheet?_eq_some_iff {o : Object} {s : Sheet} :
    o.sheet? = some s ↔
      o.name = some s.name ∧ o.subtype = s.subtype ∧ o.attributes = s.attributes := by
  obtain ⟨name, subtype, attributes⟩ := s
  simp [sheet?]

namespace Topology

/-- The sheets of all objects, in the order in which they joined. -/
def sheets (t : Topology) : List (Option Sheet) := t.objects.map Object.sheet?

/-- There is one for each object. -/
@[simp] theorem length_sheets (t : Topology) : t.sheets.length = t.size := by
  rw [sheets, List.length_map, size]

private theorem sheets_modify (t : Topology) (id : ObjectId) {f : Object → Object}
    (hf : ∀ o, (f o).sheet? = o.sheet?) : (t.modify id f).sheets = t.sheets := by
  apply List.ext_getElem?
  intro i
  rw [sheets, sheets, modify, List.getElem?_map, List.getElem?_map, List.getElem?_modify]
  by_cases hi : id.index = i
  · cases t.objects[i]? <;> simp [hi, hf]
  · simp [hi]

/-- Setting a link speed keeps the sheets. -/
@[simp] theorem sheets_setLinkSpeed (t : Topology) (id : ObjectId) (speed : Binary32) :
    (t.setLinkSpeed id speed).sheets = t.sheets := by
  unfold setLinkSpeed
  split
  · exact sheets_modify t id fun o ↦ rfl
  · rfl

/-- A sheet that is added comes last. -/
@[simp] theorem sheets_insertSheet (t : Topology) (parent : ObjectId) (s : Sheet) :
    (t.insertSheet parent s).sheets = t.sheets ++ [some s] := by
  have h : ({ t with objects := t.objects ++
      [{ Object.ofSheet .coprocessor s with parent := some parent }] } : Topology).sheets =
      t.sheets ++ [some s] := List.map_append
  rw [← h]
  exact sheets_modify _ parent fun o ↦ rfl

/-- Sheets that are added come last, in order. -/
@[simp] theorem sheets_insertSheets (t : Topology) (parent : ObjectId) (added : List Sheet) :
    (t.insertSheets parent added).sheets = t.sheets ++ added.map some := by
  induction added generalizing t with
  | nil => rw [insertSheets, List.foldl_nil, List.map_nil, List.append_nil]
  | cons s added ih =>
    have h := ih (t.insertSheet parent s)
    rw [sheets_insertSheet, List.append_assoc] at h
    exact h

/-- A device brings its own sheet and then those of its subdevices. -/
theorem sheets_insertDevice (t : Topology) (parent : ObjectId) (d : Description) :
    (t.insertDevice parent d).1.sheets = t.sheets ++ some d.whole :: d.parts.map some := by
  simp [insertDevice]

/-- Whether the object with an identity has a sheet. -/
def Shows (t : Topology) (id : ObjectId) (s : Sheet) : Prop := t.sheets[id.index]? = some (some s)

/-- What shows a sheet is an object. -/
theorem Shows.get? {t : Topology} {id : ObjectId} {s : Sheet} (h : t.Shows id s) :
    ∃ o, t.get? id = some o ∧ o.name = some s.name ∧ o.subtype = s.subtype ∧
      o.attributes = s.attributes := by
  rw [Shows, sheets, List.getElem?_map, Option.map_eq_some_iff] at h
  obtain ⟨o, ho, hs⟩ := h
  exact ⟨o, ho, Object.sheet?_eq_some_iff.mp hs⟩

/-- A sheet that shows still does when others have joined. -/
theorem Shows.mono {t t' : Topology} {id : ObjectId} {s : Sheet} (h : t.Shows id s)
    (hp : t.sheets <+: t'.sheets) : t'.Shows id s := by
  obtain ⟨added, ha⟩ := hp
  rw [Shows] at h ⊢
  rw [← ha, List.getElem?_append_left (List.getElem?_eq_some_iff.mp h).1, h]

/-- A placed device shows its own sheet, and its subdevices, one by one, show theirs. -/
structure ShowsDevice (t : Topology) (p : Placement) (d : Description) : Prop where
  whole : t.Shows p.object d.whole
  parts : List.Forall₂ t.Shows p.subdevices d.parts

/-- A device that shows still does when others have joined. -/
theorem ShowsDevice.mono {t t' : Topology} {p : Placement} {d : Description}
    (h : t.ShowsDevice p d) (hp : t.sheets <+: t'.sheets) : t'.ShowsDevice p d where
  whole := h.whole.mono hp
  parts := h.parts.imp fun _ _ hs ↦ hs.mono hp

/-- A device shows where it was put. -/
theorem showsDevice_insertDevice (t : Topology) (parent : ObjectId) (d : Description) :
    (t.insertDevice parent d).1.ShowsDevice (t.insertDevice parent d).2 d := by
  constructor
  · rw [Shows, sheets_insertDevice, List.getElem?_append_right] <;> simp [insertDevice, nextId]
  · rw [List.forall₂_iff_get]
    constructor
    · simp [insertDevice, nextIds]
    · intro k hk hd
      have hpart : ((t.insertDevice parent d).2.subdevices.get ⟨k, hk⟩).index =
          t.size + 1 + k := by
        simp [insertDevice, nextIds, insertSheet]
      have hold : t.sheets.length ≤ t.size + 1 + k := by
        rw [length_sheets]
        omega
      have hindex : t.size + 1 + k - t.sheets.length = k + 1 := by
        rw [length_sheets]
        omega
      rw [Shows, sheets_insertDevice, hpart, List.getElem?_append_right hold, hindex,
        List.getElem?_cons_succ, List.getElem?_map, List.getElem?_eq_getElem hd]
      rfl

end Topology

/-- Placing a device adds its sheets to those that are there. -/
theorem sheets_placeDevice (vendor : Answers) (t : Topology) (device : DeviceHandle)
    (d : Description) :
    (placeDevice vendor t device d).value.1.sheets =
      t.sheets ++ some d.whole :: d.parts.map some := by
  obtain ⟨located, hlocated, hvalue⟩ := value_placeDevice vendor t device d
  rw [hvalue, Topology.sheets_insertDevice]
  cases hlocated with
  | root => rfl
  | found _ => rfl
  | measured _ speed => rw [Topology.sheets_setLinkSpeed]

/-- A device shows where it was placed. -/
theorem showsDevice_placeDevice (vendor : Answers) (t : Topology) (device : DeviceHandle)
    (d : Description) :
    (placeDevice vendor t device d).value.1.ShowsDevice (placeDevice vendor t device d).value.2 d :=
  Topology.showsDevice_insertDevice _ _ d

end AcceleratorTopology
