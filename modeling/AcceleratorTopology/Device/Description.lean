import AcceleratorTopology.Device.MemorySizes
import AcceleratorTopology.Device.QueueGroups
import AcceleratorTopology.Device.Profile
import AcceleratorTopology.Settings.Configuration

/-!
# Describing a device

All that is learnt about one device and its subdevices, as a sheet for each. A query that fails
leaves attributes out and nothing more.
-/

namespace AcceleratorTopology

open Vendor Settings

/-- The sheets of a device and of its subdevices. -/
structure Description where
  whole : Sheet
  parts : List Sheet
  deriving DecidableEq, Repr

/-- Where a device stands in the listing: its number among all devices listed so far, the number
of its driver, and its number within that driver's list. -/
structure Listing where
  index : Nat
  driver : Nat
  position : Nat
  device : DeviceHandle
  deriving DecidableEq, Repr

/-- The word for the interface that describes the devices. -/
def backend : String := "LevelZero"

/-- The attribute that every sheet starts with. -/
def backendAttribute : Attribute := ⟨"Backend", backend⟩

/-- The sheet of a whole device before anything is asked. -/
def wholeSheet (config : Configuration) (listing : Listing) : Sheet where
  name := s!"{config.namePrefix}{listing.index}"
  subtype := some backend
  attributes := [backendAttribute, .number "LevelZeroDriverIndex" listing.driver,
    .number "LevelZeroDriverDeviceIndex" listing.position]

/-- The sheet of subdevice number `k` before anything is asked. -/
def partSheet (whole : String) (k : Nat) : Sheet where
  name := s!"{whole}.{k}"
  subtype := some backend
  attributes := [backendAttribute, .number "LevelZeroSubdeviceID" k]

/-- Asks for the subdevices of a device. Devices without any refuse to say so, hence a failure
means none. -/
def subdevicesOf (vendor : Answers) (name : String) (device : DeviceHandle) :
    Described (List DeviceHandle) := do
  match (← ask vendor (.subdevices device)) with
  | .ok handles => return handles
  | .error fault =>
    takeNote s!"{name}: no subdevices ({fault.message})"
    return []

/-- Describes subdevice number `k`, its memory apart. -/
def describePart (vendor : Answers) (switch : SysmanState) (whole : String) (k : Nat)
    (device : DeviceHandle) : Described Sheet := do
  let sheet := partSheet whole k
  let profile ← deviceProfile vendor sheet.name device .part switch
  let queues ← queueAttributes vendor sheet.name device
  return sheet.note (profile.attributes ++ queues)

/-- The attribute that counts subdevices, if there are any. -/
def subdeviceCount (handles : List DeviceHandle) : List Attribute :=
  if handles.isEmpty then [] else [.number "LevelZeroSubdevices" handles.length]

/-- The sheets with the memory entries that belong to each. -/
def Description.noteMemory (d : Description) (entries : List MemoryEntry) : Description where
  whole := d.whole.note (entriesAt .whole entries)
  parts := d.parts.mapIdx fun k part ↦ part.note (entriesAt (.part k) entries)

namespace Description

private theorem mapIdx_same (sheets : List Sheet) : sheets.mapIdx (fun _ s ↦ s) = sheets :=
  List.ext_getElem (by simp) (by simp)

/-- Without entries nothing is noted. -/
@[simp] theorem noteMemory_nil (d : Description) : d.noteMemory [] = d := by
  simp [noteMemory, entriesAt, mapIdx_same]

/-- Entries can be noted one by one. -/
theorem noteMemory_cons (d : Description) (e : MemoryEntry) (entries : List MemoryEntry) :
    d.noteMemory (e :: entries) = (d.noteMemory [e]).noteMemory entries := by
  simp only [noteMemory, List.mapIdx_mapIdx, entriesAt_cons _ e entries, ← Sheet.note_note]
  rfl

/-- An entry of the whole device is noted there only. -/
theorem noteMemory_whole (d : Description) (attr : Attribute) :
    d.noteMemory [⟨.whole, attr⟩] = ⟨d.whole.note [attr], d.parts⟩ := by
  simp [noteMemory, entriesAt, mapIdx_same]

/-- An entry of a subdevice is noted there only. -/
theorem noteMemory_part (d : Description) (k : Nat) (attr : Attribute) :
    d.noteMemory [⟨.part k, attr⟩] = ⟨d.whole, d.parts.modify k (·.note [attr])⟩ := by
  have hp : (d.parts.mapIdx fun i s ↦ s.note (entriesAt (.part i) [⟨.part k, attr⟩])) =
      d.parts.modify k (·.note [attr]) := by
    apply List.ext_getElem?
    intro i
    rw [List.getElem?_mapIdx, List.getElem?_modify]
    cases d.parts[i]? <;> grind [entriesAt, Sheet.note_nil]
  have hw : entriesAt .whole [⟨.part k, attr⟩] = [] := rfl
  rw [noteMemory, hp, hw, Sheet.note_nil]

/-- Noting entries keeps the number of subdevices. -/
@[simp] theorem length_parts_noteMemory (d : Description) (entries : List MemoryEntry) :
    (d.noteMemory entries).parts.length = d.parts.length := by
  simp [noteMemory]

end Description

/-- A device as described so far, its memory apart, with whom memory will be asked about. -/
structure Survey where
  description : Description
  family : DeviceFamily
  deriving DecidableEq, Repr

/-- Describes a device and its subdevices, their memory apart. -/
def surveyDevice (vendor : Answers) (config : Configuration) (switch : SysmanState)
    (listing : Listing) : Described Survey := do
  let sheet := wholeSheet config listing
  let profile ← deviceProfile vendor sheet.name listing.device .whole switch
  let queues ← queueAttributes vendor sheet.name listing.device
  let handles ← subdevicesOf vendor sheet.name listing.device
  let parts ← Traced.collect
    (fun numbered ↦ describePart vendor switch sheet.name numbered.2 numbered.1) handles.zipIdx
  return {
    description := ⟨sheet.note (profile.attributes ++ queues ++ subdeviceCount handles), parts⟩
    family := ⟨⟨listing.device, sheet.name⟩, List.zipWith (fun h s ↦ ⟨h, s.name⟩) handles parts,
      profile.integrated⟩ }

/-- Describes a device and its subdevices, and says which source of memory sizes is chosen from
then on. -/
def describe (vendor : Answers) (config : Configuration) (switch : SysmanState)
    (choice : MemoryChoice) (listing : Listing) : Described (MemoryChoice × Description) := do
  let survey ← surveyDevice vendor config switch listing
  let memory ← memorySizes vendor survey.family choice
  return (memory.1, survey.description.noteMemory memory.2)

end AcceleratorTopology
