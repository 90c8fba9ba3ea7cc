import AcceleratorTopology.Proofs.Device.Contents
import AcceleratorTopology.Proofs.Discovery.Visits
import AcceleratorTopology.Proofs.Text.Decimal
import AcceleratorTopology.Proofs.Topology.Joining
import AcceleratorTopology.Proofs.Topology.Sheets
import Mathlib.Data.List.Nodup

/-!
# The names of discovered devices

A device is called by a prefix and its number in the pass, a subdevice by the name of its device
and a number of its own. Whatever the prefix is, no two objects of a pass have the same name: a name
tells the numbers that it is made of, and no numbers are given twice.
-/

namespace AcceleratorTopology

open Vendor Settings

/-- The numbers that a discovered device is called by. -/
inductive Serial where
  | whole (device : Nat)
  | part (device number : Nat)
  deriving DecidableEq, Repr

namespace Serial

/-- The number of the device, also for a subdevice. -/
def device : Serial → Nat
  | whole n => n
  | part n _ => n

/-- The name with a prefix and these numbers. -/
def name (namePrefix : String) : Serial → String
  | whole n => namePrefix ++ toString n
  | part n k => namePrefix ++ toString n ++ "." ++ toString k

/-- The characters of a name behind its prefix. -/
def digits : Serial → List Char
  | whole n => (toString n).toList
  | part n k => (toString n).toList ++ '.' :: (toString k).toList

/-- A name is its prefix, and then the numbers. -/
theorem toList_name (namePrefix : String) (s : Serial) :
    (s.name namePrefix).toList = namePrefix.toList ++ s.digits := by
  cases s with
  | whole n => exact String.toList_append
  | part n k =>
    simp only [name, digits, String.toList_append, List.append_assoc]
    rfl

private theorem digits_whole_ne_part (n m k : Nat) : (whole n).digits ≠ (part m k).digits := by
  intro h
  have hperiod : '.' ∈ (whole n).digits := by
    rw [h]
    exact List.mem_append_right _ List.mem_cons_self
  exact Text.notMem_toString (by decide) n hperiod

/-- Different numbers make different names. -/
theorem name_injective (namePrefix : String) : Function.Injective (name namePrefix) := by
  intro a b h
  have hdigits : a.digits = b.digits := by
    have hlist := congrArg String.toList h
    rw [toList_name, toList_name] at hlist
    exact List.append_cancel_left hlist
  cases a with
  | whole n =>
    cases b with
    | whole m => rw [Text.toString_injective (String.toList_injective hdigits)]
    | part m l => exact absurd hdigits (digits_whole_ne_part n m l)
  | part n k =>
    cases b with
    | whole m => exact absurd hdigits.symm (digits_whole_ne_part m n k)
    | part m l =>
      obtain ⟨rfl, rfl⟩ := Text.toString_append_inj (by decide) hdigits
      rfl

/-- The numbers of device `n` and of its subdevices, in order. -/
def ofDevice (n parts : Nat) : List Serial := whole n :: (List.range parts).map (part n)

private theorem device_of_mem_ofDevice {n parts : Nat} {s : Serial} (h : s ∈ ofDevice n parts) :
    s.device = n := by
  cases List.mem_cons.mp h with
  | inl he => rw [he, device]
  | inr hm =>
    obtain ⟨k, -, rfl⟩ := List.mem_map.mp hm
    rfl

private theorem nodup_ofDevice (n parts : Nat) : (ofDevice n parts).Nodup := by
  refine List.nodup_cons.mpr ⟨fun hm ↦ ?_, List.nodup_range.map fun j k ↦ ?_⟩
  · obtain ⟨k, -, hk⟩ := List.mem_map.mp hm
    cases hk
  · exact fun h ↦ (Serial.part.inj h).2

/-- The numbers of the devices at some sites, in order. -/
def ofSites (vendor : Answers) (listed : List Site) : List Serial :=
  listed.zipIdx.flatMap fun numbered ↦
    ofDevice numbered.2 (subdeviceHandles vendor numbered.1.device).length

private theorem ofSites_concat (vendor : Answers) (listed : List Site) (s : Site) :
    ofSites vendor (listed ++ [s]) = ofSites vendor listed ++
      ofDevice listed.length (subdeviceHandles vendor s.device).length := by
  rw [ofSites, List.zipIdx_append, List.flatMap_append, Nat.zero_add, List.zipIdx_singleton,
    List.flatMap_singleton]
  rfl

private theorem nodup_ofSites (vendor : Answers) (listed : List Site) :
    (ofSites vendor listed).Nodup := by
  rw [ofSites, List.nodup_flatMap]
  refine ⟨fun numbered _ ↦ nodup_ofDevice _ _, (pairwise_zipIdx listed).imp fun {a b} hlt ↦ ?_⟩
  intro s ha hb
  have hsame : a.2 = b.2 := (device_of_mem_ofDevice ha).symm.trans (device_of_mem_ofDevice hb)
  exact Nat.ne_of_lt hlt hsame

end Serial

/-- The names of the sheets of a device, its own first. -/
def Description.names (d : Description) : List String := d.whole.name :: d.parts.map Sheet.name

/-- A device and its subdevices are called by their numbers. -/
theorem names_describe (vendor : Answers) (config : Configuration) (switch : SysmanState)
    (choice : MemoryChoice) (listing : Listing) :
    (describe vendor config switch choice listing).value.2.names =
      (Serial.ofDevice listing.index (subdeviceHandles vendor listing.device).length).map
        (Serial.name config.namePrefix) := by
  have hlength := length_describe_parts vendor config switch choice listing
  rw [Description.names, Serial.ofDevice, List.map_cons, List.map_map]
  refine congrArg (List.cons _) (List.ext_getElem? fun k ↦ ?_)
  rw [List.getElem?_map, List.getElem?_map]
  by_cases hk : k < (subdeviceHandles vendor listing.device).length
  · have hpart := List.getElem?_eq_getElem (hlength ▸ hk)
    rw [hpart, List.getElem?_range hk, Option.map_some, Option.map_some,
      (describe_part vendor config switch choice listing hpart).1]
    rfl
  · rw [List.getElem?_eq_none (by omega), List.getElem?_eq_none (by rw [List.length_range]; omega)]
    rfl

namespace Topology

/-- The names of all objects, in the order in which they joined. -/
def names (t : Topology) : List (Option String) := t.objects.map Object.name

private theorem names_eq_map_sheets (t : Topology) :
    t.names = t.sheets.map (Option.map Sheet.name) := by
  rw [names, sheets, List.map_map]
  refine List.map_congr_left fun o _ ↦ ?_
  rw [Function.comp_apply, Object.sheet?]
  cases o.name <;> rfl

private theorem map_name_ids (t : Topology) :
    t.ids.map (fun id ↦ (t.get? id).bind Object.name) = t.names := by
  apply List.ext_getElem
  · simp [ids, names, size]
  · intro k hk hn
    have hlt : k < t.objects.length := by
      rw [names, List.length_map] at hn
      exact hn
    simp [ids, names, get?, hlt]

end Topology

/-- The identities of a device and of its subdevices. -/
def Placement.ids (p : Placement) : List ObjectId := p.object :: p.subdevices

section PlaceDevice

variable (vendor : Answers) (t : Topology) (device : DeviceHandle) (d : Description)

private theorem placementIds_placeDevice :
    (placeDevice vendor t device d).value.2.ids = t.nextIds (d.parts.length + 1) := by
  obtain ⟨located, hlocated, hvalue⟩ := value_placeDevice vendor t device d
  have hjoin : (located.1.insertDevice located.2 d).2.ids =
      located.1.nextIds (d.parts.length + 1) :=
    (located.1.nextIds_succ located.2 d.whole d.parts.length).symm
  rw [hvalue, hjoin, Topology.nextIds, Topology.nextIds]
  cases hlocated with
  | root => rfl
  | found _ => rfl
  | measured _ speed => rw [Topology.size_setLinkSpeed]

private theorem ids_placeDevice :
    (placeDevice vendor t device d).value.1.ids =
      t.ids ++ (placeDevice vendor t device d).value.2.ids := by
  have hsize : (placeDevice vendor t device d).value.1.size = t.size + (d.parts.length + 1) := by
    rw [← Topology.length_sheets, sheets_placeDevice, List.length_append, Topology.length_sheets,
      List.length_cons, List.length_map]
  rw [Topology.ids_of_size hsize, placementIds_placeDevice]

private theorem names_placeDevice :
    (placeDevice vendor t device d).value.1.names = t.names ++ d.names.map some := by
  rw [Topology.names_eq_map_sheets, Topology.names_eq_map_sheets, sheets_placeDevice,
    List.map_append, Description.names, List.map_cons, List.map_cons, List.map_map, List.map_map]
  rfl

end PlaceDevice

/-- A topology has grown by the devices at some sites: their objects follow those that were there,
and are called by their numbers. -/
structure CalledByNumbers (vendor : Answers) (config : Configuration) (t : Topology)
    (done : List Site) (p : Progress) : Prop where
  length : p.placements.length = done.length
  ids : p.topology.ids = t.ids ++ p.placements.flatMap Placement.ids
  names : p.topology.names =
    t.names ++ ((Serial.ofSites vendor done).map (Serial.name config.namePrefix)).map some

/-- One more visit gives the next numbers. -/
theorem CalledByNumbers.visit {vendor : Answers} {config : Configuration} {t : Topology}
    {done : List Site} {p : Progress} (h : CalledByNumbers vendor config t done p)
    (switch : SysmanState) (s : Site) :
    CalledByNumbers vendor config t (done ++ [s])
      (visit vendor config switch p (.device s)).value := by
  rw [value_visit_device]
  constructor
  case length => rw [List.length_append, List.length_append, h.length]; rfl
  case ids =>
    dsimp only
    rw [ids_placeDevice, h.ids, List.flatMap_append, List.flatMap_singleton, List.append_assoc]
  case names =>
    dsimp only
    rw [names_placeDevice, h.names, names_describe, h.length, Serial.ofSites_concat,
      List.map_append, List.map_append, List.append_assoc]

/-- A pass calls all of its devices by their numbers. -/
theorem calledByNumbers_runPass (vendor : Answers) (config : Configuration) (switch : SysmanState)
    (choice : MemoryChoice) (t : Topology) :
    CalledByNumbers vendor config t (sites vendor t)
      (runPass vendor config switch choice t).value := by
  refine runPass_induction (CalledByNumbers vendor config t) ⟨rfl, ?_, ?_⟩ ?_
  · exact (List.append_nil _).symm
  · exact (List.append_nil _).symm
  · intro done p s h
    exact h.visit switch s

/-- The objects that a pass adds are the devices and subdevices that it reports, in order. Each of
them has a name, and no two have the same, whatever the prefix is. -/
theorem discovered_names_unique (vendor : Answers) (config : Configuration) (switch : SysmanState)
    (choice : MemoryChoice) (t : Topology) :
    let pass : Pass := runPass vendor config switch choice t
    let final := pass.value.topology
    let added := (pass.report config).devices.flatMap fun p ↦ p.object :: p.subdevices
    final.ids = t.ids ++ added ∧
    ∃ names : List String,
      added.map (fun id ↦ (final.get? id).bind Object.name) = names.map some ∧ names.Nodup := by
  intro pass final added
  have hcalled := calledByNumbers_runPass vendor config switch choice t
  refine ⟨hcalled.ids, (Serial.ofSites vendor (sites vendor t)).map (Serial.name config.namePrefix),
    ?_, (Serial.nodup_ofSites vendor _).map (Serial.name_injective _)⟩
  have hnames := final.map_name_ids
  have hlength : (t.ids.map fun id ↦ (final.get? id).bind Object.name).length = t.names.length := by
    rw [List.length_map, ← t.map_name_ids, List.length_map]
  rw [hcalled.ids, hcalled.names, List.map_append] at hnames
  exact List.append_inj_right hnames hlength

end AcceleratorTopology
