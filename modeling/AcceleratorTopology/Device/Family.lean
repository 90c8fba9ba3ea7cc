import AcceleratorTopology.Device.Sheet
import AcceleratorTopology.Event.Log
import AcceleratorTopology.Settings.MemoryPreference

/-!
# Whose memory is described

Memory sizes are found for a whole device and its subdevices together, by one of two interfaces.
What is found is a list of entries, each an attribute with the place where it belongs.
-/

namespace AcceleratorTopology

open Vendor Settings

/-- A device or subdevice with the name that notes call it. -/
structure NamedDevice where
  handle : DeviceHandle
  name : String
  deriving DecidableEq, Repr

/-- A device and its subdevices. -/
structure DeviceFamily where
  whole : NamedDevice
  parts : List NamedDevice
  /-- Whether the whole device shares the host's memory. -/
  integrated : Bool
  deriving DecidableEq, Repr

/-- A place within a family: the whole device or one of its subdevices. -/
inductive MemoryPlace where
  | whole
  | part (index : Nat)
  deriving DecidableEq, Repr

/-- A subdevice is not the whole device. -/
theorem MemoryPlace.whole_ne_part (k : Nat) : whole ≠ part k := nofun

/-- An attribute and where it belongs. -/
structure MemoryEntry where
  place : MemoryPlace
  attr : Attribute
  deriving DecidableEq, Repr

/-- The attribute that gives the size of a memory in KiB. -/
def sizeAttribute (memory : String) (kib : Nat) : Attribute :=
  .number s!"LevelZero{memory}Size" kib

/-- The attributes of the entries that belong to a place, in order. -/
def entriesAt (place : MemoryPlace) (entries : List MemoryEntry) : List Attribute :=
  (entries.filter (·.place == place)).map (·.attr)

/-- The attributes of some entries come before those of others. -/
theorem entriesAt_append (place : MemoryPlace) (first second : List MemoryEntry) :
    entriesAt place (first ++ second) = entriesAt place first ++ entriesAt place second := by
  rw [entriesAt, List.filter_append, List.map_append, entriesAt, entriesAt]

/-- The attributes of the first entry come before those of the others. -/
theorem entriesAt_cons (place : MemoryPlace) (e : MemoryEntry) (entries : List MemoryEntry) :
    entriesAt place (e :: entries) = entriesAt place [e] ++ entriesAt place entries :=
  entriesAt_append place [e] entries

/-- Attributes that all belong to one place belong to no other. -/
theorem entriesAt_map (place other : MemoryPlace) (attributes : List Attribute) :
    entriesAt place (attributes.map (MemoryEntry.mk other)) =
      if other = place then attributes else [] := by
  by_cases h : other = place <;> simp [entriesAt, List.filter_map, Function.comp_def, h]

/-- The interface that memory sizes are read from. -/
inductive MemorySource where
  | unresolved
  | core
  | sysman
  deriving DecidableEq, Repr

/-- The preferred source and the one that was settled on. -/
structure MemoryChoice where
  preference : MemoryPreference
  source : MemorySource := .unresolved
  deriving DecidableEq, Repr

end AcceleratorTopology
