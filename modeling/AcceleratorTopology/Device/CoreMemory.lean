import AcceleratorTopology.Device.Family
import AcceleratorTopology.Device.ModuleMemory
import AcceleratorTopology.Text.Quoted

/-!
# Memory sizes from the core interface

The core interface lists the memories of each device and subdevice by name.
-/

namespace AcceleratorTopology

open Vendor

/-- The note about a memory. -/
def memoryNote (device : String) (p : MemoryDescription) : String :=
  let width := p.maxBusWidth.toNat
  s!"{device}: memory {Text.quoted p.name} size {p.totalSize.toNat} " ++
    s!"clock {p.maxClockRate.toNat} bus width {width}"

/-- Whether a memory is reported: it has a size, and it is not DDR where that is ignored. -/
def isReported (ignoreDdr : Bool) (p : MemoryDescription) : Bool :=
  p.totalSize != 0 && !(ignoreDdr && p.name == "DDR")

/-- The attribute of a memory. One without a name is called just that. -/
def Vendor.MemoryDescription.asAttribute (p : MemoryDescription) : Attribute :=
  sizeAttribute (if p.name.isEmpty then "Memory" else p.name) (toKiB p.totalSize)

/-- The attributes of a list of memories. -/
def memoryAttributes (ignoreDdr : Bool) (memories : List MemoryDescription) : List Attribute :=
  (memories.filter (isReported ignoreDdr)).map (·.asAttribute)

/-- The memory sizes of one device or subdevice. -/
def memoryOf (vendor : Answers) (ignoreDdr : Bool) (device : NamedDevice) :
    Described (List Attribute) := do
  match (← ask vendor (.memories device.handle)) with
  | .error fault =>
    takeNote s!"{device.name}: {fault.message}"
    return []
  | .ok memories =>
    let _ ← Traced.collect (fun p ↦ takeNote (memoryNote device.name p)) memories
    return memoryAttributes ignoreDdr memories

/-- The memory sizes of a device and its subdevices, each by its own list. -/
def memoryFromCore (vendor : Answers) (family : DeviceFamily) (ignoreDdr : Bool) :
    Described (List MemoryEntry) := do
  let whole ← memoryOf vendor ignoreDdr family.whole
  let parts ← Traced.collect (memoryOf vendor ignoreDdr) family.parts
  return whole.map (MemoryEntry.mk .whole) ++
    (parts.mapIdx fun k attributes ↦ attributes.map (MemoryEntry.mk (.part k))).flatten

end AcceleratorTopology
