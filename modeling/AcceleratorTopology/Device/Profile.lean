import AcceleratorTopology.Device.Sheet
import AcceleratorTopology.Event.Log
import AcceleratorTopology.Settings.Sysman

/-!
# The profile of a device

The attributes that say what a device is: its type and shape from the core interface, and the
strings that identify it from the management interface. The latter are asked for on whole devices
only, since on a part they would be those of the whole.
-/

namespace AcceleratorTopology

open Vendor Settings

/-- Whether a device is described as a whole or as a part of another one. -/
inductive DeviceStanding where
  | whole
  | part
  deriving DecidableEq, Repr

/-- What is learnt about a device's nature. -/
structure Profile where
  integrated : Bool
  attributes : List Attribute
  deriving DecidableEq, Repr

/-- Whether a string is the vendor's word for an unset one, in any case. -/
def isUnsetIdentity (s : String) : Bool :=
  s.toList.map Char.toLower == "unknown".toList

/-- The attributes of type and shape. -/
def Vendor.DeviceShape.attributes (p : DeviceShape) : List Attribute :=
  [⟨"LevelZeroDeviceType", p.deviceType.label⟩,
    .number "LevelZeroNumSlices" p.slices.toNat,
    .number "LevelZeroNumSubslicesPerSlice" p.subslicesPerSlice.toNat,
    .number "LevelZeroNumEUsPerSubslice" p.eusPerSubslice.toNat,
    .number "LevelZeroNumThreadsPerEU" p.threadsPerEu.toNat]

/-- The attributes of identity; unset strings are left out. -/
def Vendor.IdentityStrings.attributes (s : IdentityStrings) : List Attribute :=
  let all : List Attribute :=
    [⟨"LevelZeroVendor", s.vendor⟩,
      ⟨"LevelZeroModel", s.model⟩,
      ⟨"LevelZeroBrand", s.brand⟩,
      ⟨"LevelZeroSerialNumber", s.serialNumber⟩,
      ⟨"LevelZeroBoardNumber", s.boardNumber⟩]
  all.filter fun a ↦ !isUnsetIdentity a.value

/-- Why the identity of a device is missing, depending on the management interface's switch. -/
def identityMissing (switch : SysmanState) (fault : Fault) : String :=
  let hint :=
    match switch with
    | .maybeLate => " (ZES_ENABLE_SYSMAN=1 set too late?)"
    | .disabled => " (ZES_ENABLE_SYSMAN=0)"
    | .enabled => ""
  s!"Level Zero: zesDeviceGetProperties() failed{hint}: {fault.message}"

/-- Asks for the type and shape of a device; `name` is what notes call it. None if the query
fails. -/
def coreProperties (vendor : Answers) (name : String) (device : DeviceHandle) :
    Described (Option DeviceShape) := do
  match (← ask vendor (.properties device)) with
  | .error fault =>
    takeNote s!"{name}: {fault.message}"
    return none
  | .ok p =>
    if let .other raw := p.deviceType then
      raiseWarning .unexpectedDeviceType true s!"Level Zero: unexpected device type {raw.toNat}"
    return some p

/-- Asks for the identity of a whole device. -/
def identityAttributes (vendor : Answers) (device : DeviceHandle) (switch : SysmanState) :
    Described (List Attribute) := do
  match (← ask vendor (.identity device)) with
  | .ok strings => return strings.attributes
  | .error fault =>
    raiseWarning .sysmanUnavailable true (identityMissing switch fault)
    return []

/-- The profile of a device. It counts as a part if it is described as one or says so itself. -/
def deviceProfile (vendor : Answers) (name : String) (device : DeviceHandle)
    (standing : DeviceStanding) (switch : SysmanState) : Described Profile := do
  let properties? ← coreProperties vendor name device
  let integrated := properties?.any (·.isIntegrated)
  let shape := (properties?.map (·.attributes)).getD []
  if standing = .part || properties?.any (·.isSubdevice) then
    return ⟨integrated, shape⟩
  let identity ← identityAttributes vendor device switch
  return ⟨integrated, shape ++ identity⟩

end AcceleratorTopology
