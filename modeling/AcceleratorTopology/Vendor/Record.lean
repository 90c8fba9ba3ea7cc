import AcceleratorTopology.Pci.Address

/-!
# Handles and records

What the vendor's interface speaks of: opaque handles of drivers, devices and memory modules, and
the records that describe them.
-/

namespace AcceleratorTopology.Vendor

/-- A driver. -/
structure DriverHandle where
  raw : Nat
  deriving DecidableEq, Repr

/-- A device or a subdevice. -/
structure DeviceHandle where
  raw : Nat
  deriving DecidableEq, Repr

/-- A memory module of a device. -/
structure ModuleHandle where
  raw : Nat
  deriving DecidableEq, Repr

/-- What a device is. -/
inductive DeviceType where
  | gpu
  | cpu
  | fpga
  | mca
  | vpu
  | other (raw : UInt32)
  deriving DecidableEq, Repr

/-- The type with a given number; numbers without a meaning are kept. -/
def DeviceType.ofRaw (raw : UInt32) : DeviceType :=
  if raw = 1 then gpu
  else if raw = 2 then cpu
  else if raw = 3 then fpga
  else if raw = 4 then mca
  else if raw = 5 then vpu
  else other raw

/-- The word for a type. -/
def DeviceType.label : DeviceType → String
  | gpu => "GPU"
  | cpu => "CPU"
  | fpga => "FPGA"
  | mca => "MCA"
  | vpu => "VPU"
  | other _ => "Unknown"

/-- The type, shape and flags of a device. -/
structure DeviceShape where
  deviceType : DeviceType
  vendorId : UInt32
  deviceId : UInt32
  flags : UInt32
  subdeviceId : UInt32
  threadsPerEu : UInt32
  eusPerSubslice : UInt32
  subslicesPerSlice : UInt32
  slices : UInt32
  name : String
  deriving DecidableEq, Repr

/-- Whether the device shares the host's memory: flag bit 0. -/
def DeviceShape.isIntegrated (p : DeviceShape) : Bool := p.flags &&& 1 != 0

/-- Whether the device is part of another one: flag bit 1. -/
def DeviceShape.isSubdevice (p : DeviceShape) : Bool := p.flags &&& 2 != 0

private theorem and_bne_zero_eq_testBit {flags mask : UInt32} {i : Nat}
    (hmask : mask.toNat = 1 <<< i) : (flags &&& mask != 0) = flags.toNat.testBit i := by
  have hbits (j : Nat) : (flags &&& mask).toNat.testBit j =
      (flags.toNat.testBit j && decide (i = j)) := by
    rw [UInt32.toNat_and, Nat.testBit_and, hmask, Nat.one_shiftLeft, Nat.testBit_two_pow]
  cases hbit : flags.toNat.testBit i with
  | false =>
    have hzero : flags &&& mask = 0 := by
      apply UInt32.toNat_inj.mp
      apply Nat.eq_of_testBit_eq
      intro j
      rw [hbits, UInt32.toNat_zero, Nat.zero_testBit]
      by_cases hj : i = j
      · rw [← hj, hbit, Bool.false_and]
      · rw [decide_eq_false hj, Bool.and_false]
    rw [hzero]
    rfl
  | true =>
    apply bne_iff_ne.mpr
    intro hzero
    have hself := hbits i
    rw [hzero, UInt32.toNat_zero, Nat.zero_testBit, hbit, decide_eq_true rfl] at hself
    cases hself

/-- A device is integrated if its flag bit 0 is set, whatever its other flags are. -/
theorem DeviceShape.isIntegrated_eq_testBit (p : DeviceShape) :
    p.isIntegrated = p.flags.toNat.testBit 0 :=
  and_bne_zero_eq_testBit rfl

/-- A device is a subdevice if its flag bit 1 is set, whatever its other flags are. -/
theorem DeviceShape.isSubdevice_eq_testBit (p : DeviceShape) :
    p.isSubdevice = p.flags.toNat.testBit 1 :=
  and_bne_zero_eq_testBit rfl

/-- The strings by which the management interface identifies a device. -/
structure IdentityStrings where
  subdeviceCount : UInt32
  serialNumber : String
  boardNumber : String
  brand : String
  model : String
  vendor : String
  driverVersion : String
  deriving DecidableEq, Repr

/-- A group of command queues of a device. -/
structure QueueGroup where
  flags : UInt32
  maxFillPatternSize : UInt64
  queueCount : UInt32
  deriving DecidableEq, Repr

/-- A memory of a device as the core interface describes it. -/
structure MemoryDescription where
  flags : UInt32
  maxClockRate : UInt32
  maxBusWidth : UInt32
  totalSize : UInt64
  name : String
  deriving DecidableEq, Repr

/-- The broad kind of a memory module. -/
inductive MemoryKind where
  | hbm
  | ddr
  | other
  deriving DecidableEq, Repr

/-- The kind of a module type: type 0 is HBM, types 1 to 8 are flavours of DDR. -/
def MemoryKind.ofRaw (raw : UInt32) : MemoryKind :=
  if raw = 0 then hbm else if raw ≤ 8 then ddr else other

/-- The word for a kind. -/
def MemoryKind.label : MemoryKind → String
  | hbm => "HBM"
  | ddr => "DDR"
  | other => "Memory"

/-- A memory module as the management interface describes it. -/
structure ModuleDescription where
  memoryType : UInt32
  onSubdevice : Bool
  subdeviceId : UInt32
  location : UInt32
  physicalSize : UInt64
  busWidth : Int32
  channels : Int32
  deriving DecidableEq, Repr

/-- The broad kind of a module. -/
def ModuleDescription.kind (p : ModuleDescription) : MemoryKind := .ofRaw p.memoryType

/-- The live state of a memory module. -/
structure ModuleState where
  health : UInt32
  free : UInt64
  size : UInt64
  deriving DecidableEq, Repr

/-- The PCI location and link of a device. The bandwidth is in bytes per second and not positive
if unknown. -/
structure PciLocation where
  address : Pci.Address
  generation : Int32
  width : Int32
  maxBandwidth : Int64
  deriving DecidableEq, Repr

end AcceleratorTopology.Vendor
