import AcceleratorTopology.Vendor.Fault
import AcceleratorTopology.Vendor.Record

/-!
# Queries

A vendor is whatever answers the twelve queries of the Level Zero interface: eight about drivers,
devices and their memories, and four of the management interface (Sysman) about modules and
location. A list query answers with the complete list.
-/

namespace AcceleratorTopology.Vendor

/-- The entry points of the vendor's library that are used. -/
inductive EntryPoint where
  | init
  | driverGet
  | deviceGet
  | deviceGetSubDevices
  | deviceGetProperties
  | deviceGetQueueGroups
  | deviceGetMemories
  | sysmanDeviceGetProperties
  | sysmanEnumModules
  | sysmanMemoryGetProperties
  | sysmanMemoryGetState
  | sysmanPciGetProperties
  deriving DecidableEq, Repr

/-- The name under which the library exports an entry point. -/
def EntryPoint.symbol : EntryPoint → String
  | init => "zeInit"
  | driverGet => "zeDriverGet"
  | deviceGet => "zeDeviceGet"
  | deviceGetSubDevices => "zeDeviceGetSubDevices"
  | deviceGetProperties => "zeDeviceGetProperties"
  | deviceGetQueueGroups => "zeDeviceGetCommandQueueGroupProperties"
  | deviceGetMemories => "zeDeviceGetMemoryProperties"
  | sysmanDeviceGetProperties => "zesDeviceGetProperties"
  | sysmanEnumModules => "zesDeviceEnumMemoryModules"
  | sysmanMemoryGetProperties => "zesMemoryGetProperties"
  | sysmanMemoryGetState => "zesMemoryGetState"
  | sysmanPciGetProperties => "zesDevicePciGetProperties"

/-- A question to the vendor. -/
inductive Query where
  /-- Start the interface. -/
  | init
  /-- The drivers. -/
  | drivers
  /-- The devices of a driver. -/
  | devices (driver : DriverHandle)
  /-- The parts of a device. -/
  | subdevices (device : DeviceHandle)
  /-- The type, shape and flags of a device. -/
  | properties (device : DeviceHandle)
  /-- The command-queue groups of a device. -/
  | queueGroups (device : DeviceHandle)
  /-- The memories of a device by the core interface. -/
  | memories (device : DeviceHandle)
  /-- The identity of a device by the management interface. -/
  | identity (device : DeviceHandle)
  /-- The memory modules of a device by the management interface. -/
  | modules (device : DeviceHandle)
  /-- The description of a memory module. -/
  | moduleProperties (module : ModuleHandle)
  /-- The live state of a memory module. -/
  | moduleState (module : ModuleHandle)
  /-- The PCI location of a device. -/
  | location (device : DeviceHandle)
  deriving DecidableEq, Repr

/-- What answers a query. -/
abbrev Query.Answer : Query → Type
  | init => Unit
  | drivers => List DriverHandle
  | devices _ => List DeviceHandle
  | subdevices _ => List DeviceHandle
  | properties _ => DeviceShape
  | queueGroups _ => List QueueGroup
  | memories _ => List MemoryDescription
  | identity _ => IdentityStrings
  | modules _ => List ModuleHandle
  | moduleProperties _ => ModuleDescription
  | moduleState _ => ModuleState
  | location _ => PciLocation

/-- The entry point that serves a query. -/
def Query.entryPoint : Query → EntryPoint
  | init => .init
  | drivers => .driverGet
  | devices _ => .deviceGet
  | subdevices _ => .deviceGetSubDevices
  | properties _ => .deviceGetProperties
  | queueGroups _ => .deviceGetQueueGroups
  | memories _ => .deviceGetMemories
  | identity _ => .sysmanDeviceGetProperties
  | modules _ => .sysmanEnumModules
  | moduleProperties _ => .sysmanMemoryGetProperties
  | moduleState _ => .sysmanMemoryGetState
  | location _ => .sysmanPciGetProperties

/-- The handle that a query is about. -/
def Query.handle? : Query → Option Nat
  | init | drivers => none
  | devices driver => some driver.raw
  | subdevices device | properties device | queueGroups device | memories device
  | identity device | modules device | location device => some device.raw
  | moduleProperties module | moduleState module => some module.raw

/-- A vendor: an answer or a fault for every query. -/
abbrev Answers := (q : Query) → Except Fault q.Answer

end AcceleratorTopology.Vendor
