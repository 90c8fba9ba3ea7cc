import AcceleratorTopology.Library.Record
import AcceleratorTopology.Library.TwoPhase
import AcceleratorTopology.Settings.Variable
import AcceleratorTopology.Vendor.Query

/-!
# The vendor's library

What a library exports, and opening one. The seven core entry points are required and looked up
in a fixed order, so the first one missing is reported; the five of the management interface may
be absent.
-/

namespace AcceleratorTopology

open Vendor

namespace Library

/-- An entry point that fills in a record: from the prepared record, the code and the record as
the call leaves it. -/
abbrev RecordEntry (ρ : Type) := ρ → ResultCode × ρ

/-- What a library exports; an entry point that it lacks is `none`. -/
structure Exports where
  init : Option (UInt32 → ResultCode) := none
  driverGet : Option (ListEntry DriverHandle) := none
  deviceGet : Option (DriverHandle → ListEntry DeviceHandle) := none
  deviceGetSubDevices : Option (DeviceHandle → ListEntry DeviceHandle) := none
  deviceGetProperties : Option (DeviceHandle → RecordEntry DeviceRecord) := none
  deviceGetQueueGroups : Option (DeviceHandle → ListEntry QueueGroupRecord) := none
  deviceGetMemories : Option (DeviceHandle → ListEntry MemoryRecord) := none
  sysmanDeviceGetProperties : Option (DeviceHandle → RecordEntry IdentityRecord) := none
  sysmanEnumModules : Option (DeviceHandle → ListEntry ModuleHandle) := none
  sysmanMemoryGetProperties : Option (ModuleHandle → RecordEntry ModuleRecord) := none
  sysmanMemoryGetState : Option (ModuleHandle → RecordEntry ModuleStateRecord) := none
  sysmanPciGetProperties : Option (DeviceHandle → RecordEntry PciRecord) := none

end Library

open Library

/-- A library that has been opened: its core entry points are there. -/
structure Library where
  init : UInt32 → ResultCode
  driverGet : ListEntry DriverHandle
  deviceGet : DriverHandle → ListEntry DeviceHandle
  deviceGetSubDevices : DeviceHandle → ListEntry DeviceHandle
  deviceGetProperties : DeviceHandle → RecordEntry DeviceRecord
  deviceGetQueueGroups : DeviceHandle → ListEntry QueueGroupRecord
  deviceGetMemories : DeviceHandle → ListEntry MemoryRecord
  sysmanDeviceGetProperties : Option (DeviceHandle → RecordEntry IdentityRecord)
  sysmanEnumModules : Option (DeviceHandle → ListEntry ModuleHandle)
  sysmanMemoryGetProperties : Option (ModuleHandle → RecordEntry ModuleRecord)
  sysmanMemoryGetState : Option (ModuleHandle → RecordEntry ModuleStateRecord)
  sysmanPciGetProperties : Option (DeviceHandle → RecordEntry PciRecord)

namespace Library

/-- An entry point that is there, or the fault that it is missing. -/
def present {α : Type} (entry : EntryPoint) : Option α → Except Fault α
  | some f => .ok f
  | none => .error (.missingEntry entry.symbol)

/-- Looks up the required entry points, in order. -/
def ofExports (exported : Exports) : Except Fault Library := do
  let init ← present .init exported.init
  let driverGet ← present .driverGet exported.driverGet
  let deviceGet ← present .deviceGet exported.deviceGet
  let deviceGetSubDevices ← present .deviceGetSubDevices exported.deviceGetSubDevices
  let deviceGetProperties ← present .deviceGetProperties exported.deviceGetProperties
  let deviceGetQueueGroups ← present .deviceGetQueueGroups exported.deviceGetQueueGroups
  let deviceGetMemories ← present .deviceGetMemories exported.deviceGetMemories
  return {
    init, driverGet, deviceGet, deviceGetSubDevices, deviceGetProperties, deviceGetQueueGroups,
    deviceGetMemories
    sysmanDeviceGetProperties := exported.sysmanDeviceGetProperties
    sysmanEnumModules := exported.sysmanEnumModules
    sysmanMemoryGetProperties := exported.sysmanMemoryGetProperties
    sysmanMemoryGetState := exported.sysmanMemoryGetState
    sysmanPciGetProperties := exported.sysmanPciGetProperties }

/-- Loads the library at a path; `find` says what the system loads from there, or why it cannot
load anything. -/
def load (find : String → Except String Exports) (path : String) :
    Except Fault Library :=
  match find path with
  | .error reason => .error (.unloadable path reason)
  | .ok exported => ofExports exported

/-- The library's path when none is set. -/
def defaultPath : String := "libze_loader.so.1"

/-- The path of the library: the variable `ZE_TOPO_LOADER_PATH` if it is set to text. -/
def libraryPath (setting : Settings.Variable) : String := setting.text?.getD defaultPath

end Library

end AcceleratorTopology
