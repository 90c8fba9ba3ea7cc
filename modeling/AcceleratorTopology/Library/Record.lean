import AcceleratorTopology.Text.Field
import AcceleratorTopology.Vendor.Record

/-!
# Records of the library

The records that the vendor's library fills in. Each carries a number that tells the library what
kind of record it is; apart from that a record is handed over zeroed, which is what the default
values say. Text fields are byte arrays of fixed size, truth values are bytes.
-/

namespace AcceleratorTopology.Library

open Vendor

/-- The size of a device's or a memory's name. -/
def nameSize : Nat := 256

/-- The size of an identity string. -/
def identitySize : Nat := 64

/-- The core properties of a device. -/
structure DeviceRecord where
  structureType : UInt32 := 0x3
  type : UInt32 := 0
  vendorId : UInt32 := 0
  deviceId : UInt32 := 0
  flags : UInt32 := 0
  subdeviceId : UInt32 := 0
  threadsPerEu : UInt32 := 0
  eusPerSubslice : UInt32 := 0
  subslicesPerSlice : UInt32 := 0
  slices : UInt32 := 0
  name : List UInt8 := List.replicate nameSize 0
  deriving DecidableEq, Repr

/-- The record's content. -/
def DeviceRecord.properties (r : DeviceRecord) : DeviceShape where
  deviceType := .ofRaw r.type
  vendorId := r.vendorId
  deviceId := r.deviceId
  flags := r.flags
  subdeviceId := r.subdeviceId
  threadsPerEu := r.threadsPerEu
  eusPerSubslice := r.eusPerSubslice
  subslicesPerSlice := r.subslicesPerSlice
  slices := r.slices
  name := Text.Field.text r.name

/-- A group of command queues. -/
structure QueueGroupRecord where
  structureType : UInt32 := 0x6
  flags : UInt32 := 0
  maxFillPatternSize : UInt64 := 0
  queueCount : UInt32 := 0
  deriving DecidableEq, Repr

/-- The record's content. -/
def QueueGroupRecord.group (r : QueueGroupRecord) : QueueGroup where
  flags := r.flags
  maxFillPatternSize := r.maxFillPatternSize
  queueCount := r.queueCount

/-- A memory of a device. -/
structure MemoryRecord where
  structureType : UInt32 := 0x7
  flags : UInt32 := 0
  maxClockRate : UInt32 := 0
  maxBusWidth : UInt32 := 0
  totalSize : UInt64 := 0
  name : List UInt8 := List.replicate nameSize 0
  deriving DecidableEq, Repr

/-- The record's content. -/
def MemoryRecord.properties (r : MemoryRecord) : MemoryDescription where
  flags := r.flags
  maxClockRate := r.maxClockRate
  maxBusWidth := r.maxBusWidth
  totalSize := r.totalSize
  name := Text.Field.text r.name

/-- The identity of a device; it holds a record of core properties, which is prepared too. -/
structure IdentityRecord where
  structureType : UInt32 := 0x1
  core : DeviceRecord := {}
  subdeviceCount : UInt32 := 0
  serialNumber : List UInt8 := List.replicate identitySize 0
  boardNumber : List UInt8 := List.replicate identitySize 0
  brand : List UInt8 := List.replicate identitySize 0
  model : List UInt8 := List.replicate identitySize 0
  vendor : List UInt8 := List.replicate identitySize 0
  driverVersion : List UInt8 := List.replicate identitySize 0
  deriving DecidableEq, Repr

/-- The record's content. -/
def IdentityRecord.strings (r : IdentityRecord) : IdentityStrings where
  subdeviceCount := r.subdeviceCount
  serialNumber := Text.Field.text r.serialNumber
  boardNumber := Text.Field.text r.boardNumber
  brand := Text.Field.text r.brand
  model := Text.Field.text r.model
  vendor := Text.Field.text r.vendor
  driverVersion := Text.Field.text r.driverVersion

/-- A memory module. -/
structure ModuleRecord where
  structureType : UInt32 := 0xB
  type : UInt32 := 0
  /-- Any byte but zero is true. -/
  onSubdevice : UInt8 := 0
  subdeviceId : UInt32 := 0
  location : UInt32 := 0
  physicalSize : UInt64 := 0
  busWidth : Int32 := 0
  channels : Int32 := 0
  deriving DecidableEq, Repr

/-- The record's content. -/
def ModuleRecord.properties (r : ModuleRecord) : ModuleDescription where
  memoryType := r.type
  onSubdevice := r.onSubdevice != 0
  subdeviceId := r.subdeviceId
  location := r.location
  physicalSize := r.physicalSize
  busWidth := r.busWidth
  channels := r.channels

/-- The live state of a memory module. -/
structure ModuleStateRecord where
  structureType : UInt32 := 0x1E
  health : UInt32 := 0
  free : UInt64 := 0
  size : UInt64 := 0
  deriving DecidableEq, Repr

/-- The record's content. -/
def ModuleStateRecord.state (r : ModuleStateRecord) : ModuleState where
  health := r.health
  free := r.free
  size := r.size

/-- The PCI location of a device. -/
structure PciRecord where
  structureType : UInt32 := 0x2
  address : Pci.Address := {}
  generation : Int32 := 0
  width : Int32 := 0
  maxBandwidth : Int64 := 0
  deriving DecidableEq, Repr

/-- The record's content. -/
def PciRecord.properties (r : PciRecord) : PciLocation where
  address := r.address
  generation := r.generation
  width := r.width
  maxBandwidth := r.maxBandwidth

end AcceleratorTopology.Library
