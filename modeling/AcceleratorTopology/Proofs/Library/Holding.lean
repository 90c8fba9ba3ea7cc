import AcceleratorTopology.Library.Record
import AcceleratorTopology.Proofs.Text.Field

/-!
# What the records of a library hold

A record holds data if each of its fields does: a number is the same number, a truth value is zero
or not, and a text is written in UTF-8, without NULs but for those that fill up its field. What a
record holds is what is read from it.
-/

namespace AcceleratorTopology

open Vendor

namespace Text.Field

/-- A field of a size holds a text without NULs, which fills the field or is padded with NULs. -/
structure Holds (size : Nat) (field : List UInt8) (s : String) : Prop where
  noNul : '\x00' ∉ s.toList
  fits : (Utf8.encode s).length ≤ size
  padded : field = Utf8.encode s ++ List.replicate (size - (Utf8.encode s).length) 0

/-- The text that a field holds is read from it, also if it fills the field. -/
theorem Holds.text_eq {size : Nat} {field : List UInt8} {s : String} (h : Holds size field s) :
    text field = s := by
  rw [h.padded]
  cases size - (Utf8.encode s).length with
  | zero => rw [List.replicate_zero, List.append_nil, text_encode h.noNul]
  | succ room => rw [List.replicate_succ, text_append_nul, text_encode h.noNul]

/-- A text without NULs that fits is held by the field in which it is stored. -/
theorem holds_store {size : Nat} {s : String} (hs : '\x00' ∉ s.toList)
    (h : (Utf8.encode s).length ≤ size) : Holds size (store size (Utf8.encode s)) s where
  noNul := hs
  fits := h
  padded := by rw [store, List.take_of_length_le h, List.rightpad]

end Text.Field

namespace Library

open Text

/-- The numbers by which a library tells the types of devices; any other number has no meaning. -/
inductive TypeNumber : DeviceType → UInt32 → Prop
  | gpu : TypeNumber .gpu 1
  | cpu : TypeNumber .cpu 2
  | fpga : TypeNumber .fpga 3
  | mca : TypeNumber .mca 4
  | vpu : TypeNumber .vpu 5
  | other (raw : UInt32) (h : raw ∉ ([1, 2, 3, 4, 5] : List UInt32)) : TypeNumber (.other raw) raw

private theorem TypeNumber.ofRaw_eq {type : DeviceType} {raw : UInt32} (h : TypeNumber type raw) :
    .ofRaw raw = type := by
  cases h with
  | other _ h =>
    simp only [List.mem_cons, List.not_mem_nil, or_false, not_or] at h
    obtain ⟨hgpu, hcpu, hfpga, hmca, hvpu⟩ := h
    rw [DeviceType.ofRaw, if_neg hgpu, if_neg hcpu, if_neg hfpga, if_neg hmca, if_neg hvpu]
  | _ => rfl

/-- A record of core properties holds the shape of a device. -/
structure DeviceRecord.Holds (r : DeviceRecord) (p : DeviceShape) : Prop where
  deviceType : TypeNumber p.deviceType r.type
  vendorId : p.vendorId = r.vendorId
  deviceId : p.deviceId = r.deviceId
  flags : p.flags = r.flags
  subdeviceId : p.subdeviceId = r.subdeviceId
  threadsPerEu : p.threadsPerEu = r.threadsPerEu
  eusPerSubslice : p.eusPerSubslice = r.eusPerSubslice
  subslicesPerSlice : p.subslicesPerSlice = r.subslicesPerSlice
  slices : p.slices = r.slices
  name : Field.Holds nameSize r.name p.name

/-- What a record of core properties holds is read from it. -/
theorem DeviceRecord.Holds.properties_eq {r : DeviceRecord} {p : DeviceShape} (h : r.Holds p) :
    r.properties = p := by
  cases p
  obtain ⟨htype, rfl, rfl, rfl, rfl, rfl, rfl, rfl, rfl, hname⟩ := h
  rw [properties, htype.ofRaw_eq, hname.text_eq]

/-- A record of queue groups holds a group. -/
structure QueueGroupRecord.Holds (r : QueueGroupRecord) (g : QueueGroup) : Prop where
  flags : g.flags = r.flags
  maxFillPatternSize : g.maxFillPatternSize = r.maxFillPatternSize
  queueCount : g.queueCount = r.queueCount

/-- What a record of queue groups holds is read from it. -/
theorem QueueGroupRecord.Holds.group_eq {r : QueueGroupRecord} {g : QueueGroup} (h : r.Holds g) :
    r.group = g := by
  cases g
  obtain ⟨rfl, rfl, rfl⟩ := h
  rfl

/-- A record of memories holds a memory. -/
structure MemoryRecord.Holds (r : MemoryRecord) (p : MemoryDescription) : Prop where
  flags : p.flags = r.flags
  maxClockRate : p.maxClockRate = r.maxClockRate
  maxBusWidth : p.maxBusWidth = r.maxBusWidth
  totalSize : p.totalSize = r.totalSize
  name : Field.Holds nameSize r.name p.name

/-- What a record of memories holds is read from it. -/
theorem MemoryRecord.Holds.properties_eq {r : MemoryRecord} {p : MemoryDescription}
    (h : r.Holds p) : r.properties = p := by
  cases p
  obtain ⟨rfl, rfl, rfl, rfl, hname⟩ := h
  rw [properties, hname.text_eq]

/-- A record of identities holds identity strings, each in a field of its own. -/
structure IdentityRecord.Holds (r : IdentityRecord) (p : IdentityStrings) : Prop where
  subdeviceCount : p.subdeviceCount = r.subdeviceCount
  serialNumber : Field.Holds identitySize r.serialNumber p.serialNumber
  boardNumber : Field.Holds identitySize r.boardNumber p.boardNumber
  brand : Field.Holds identitySize r.brand p.brand
  model : Field.Holds identitySize r.model p.model
  vendor : Field.Holds identitySize r.vendor p.vendor
  driverVersion : Field.Holds identitySize r.driverVersion p.driverVersion

/-- What a record of identities holds is read from it. -/
theorem IdentityRecord.Holds.strings_eq {r : IdentityRecord} {p : IdentityStrings}
    (h : r.Holds p) : r.strings = p := by
  rw [strings, h.serialNumber.text_eq, h.boardNumber.text_eq, h.brand.text_eq, h.model.text_eq,
    h.vendor.text_eq, h.driverVersion.text_eq, ← h.subdeviceCount]

/-- A record of memory modules holds a module; any byte but zero says that it is on a subdevice. -/
structure ModuleRecord.Holds (r : ModuleRecord) (p : ModuleDescription) : Prop where
  memoryType : p.memoryType = r.type
  onSubdevice : p.onSubdevice = true ↔ r.onSubdevice ≠ 0
  subdeviceId : p.subdeviceId = r.subdeviceId
  location : p.location = r.location
  physicalSize : p.physicalSize = r.physicalSize
  busWidth : p.busWidth = r.busWidth
  channels : p.channels = r.channels

/-- What a record of memory modules holds is read from it. -/
theorem ModuleRecord.Holds.properties_eq {r : ModuleRecord} {p : ModuleDescription}
    (h : r.Holds p) : r.properties = p := by
  have hflag : (r.onSubdevice != 0) = p.onSubdevice := by
    rw [Bool.eq_iff_iff, bne_iff_ne, h.onSubdevice]
  rw [properties, hflag, ← h.memoryType, ← h.subdeviceId, ← h.location, ← h.physicalSize,
    ← h.busWidth, ← h.channels]

/-- A record of live states holds the state of a module. -/
structure ModuleStateRecord.Holds (r : ModuleStateRecord) (p : ModuleState) : Prop where
  health : p.health = r.health
  free : p.free = r.free
  size : p.size = r.size

/-- What a record of live states holds is read from it. -/
theorem ModuleStateRecord.Holds.state_eq {r : ModuleStateRecord} {p : ModuleState}
    (h : r.Holds p) : r.state = p := by
  cases p
  obtain ⟨rfl, rfl, rfl⟩ := h
  rfl

/-- A record of locations holds the PCI location of a device. -/
structure PciRecord.Holds (r : PciRecord) (p : PciLocation) : Prop where
  address : p.address = r.address
  generation : p.generation = r.generation
  width : p.width = r.width
  maxBandwidth : p.maxBandwidth = r.maxBandwidth

/-- What a record of locations holds is read from it. -/
theorem PciRecord.Holds.properties_eq {r : PciRecord} {p : PciLocation} (h : r.Holds p) :
    r.properties = p := by
  cases p
  obtain ⟨rfl, rfl, rfl, rfl⟩ := h
  rfl

end Library

end AcceleratorTopology
