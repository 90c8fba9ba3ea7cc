import AcceleratorTopology.Device.Family

/-!
# Memory sizes from modules

The management interface lists the memory modules of a whole device. A module on a subdevice gives
that subdevice a size; modules of a known kind, wherever they are, add up to the sizes of the
whole. Sizes are in KiB, and sums stop at the greatest 64-bit number.
-/

namespace AcceleratorTopology

open Vendor

/-- A number of bytes in KiB, rounded down. -/
def toKiB (bytes : UInt64) : Nat := bytes.toNat / 1024

/-- The sum of two sizes, or the greatest 64-bit number if that is less. -/
def saturatingAdd (a b : Nat) : Nat := min (a + b) (UInt64.size - 1)

/-- Sizes of the kinds that are summed up, in KiB. -/
structure MemoryTotals where
  hbm : Nat := 0
  ddr : Nat := 0
  deriving DecidableEq, Repr

/-- Adds the size of a module. -/
def MemoryTotals.add (totals : MemoryTotals) (p : ModuleDescription) : MemoryTotals :=
  match p.kind with
  | .hbm => { totals with hbm := saturatingAdd totals.hbm (toKiB p.physicalSize) }
  | .ddr => { totals with ddr := saturatingAdd totals.ddr (toKiB p.physicalSize) }
  | .other => totals

/-- The attributes of the totals; a kind without memory has none. -/
def MemoryTotals.attributes (totals : MemoryTotals) : List Attribute :=
  (if 0 < totals.hbm then [.number "LevelZeroHBMSize" totals.hbm] else []) ++
    (if 0 < totals.ddr then [.number "LevelZeroDDRSize" totals.ddr] else [])

/-- The size of a module; some drivers report it as part of the live state only. Number `m` is
what notes call the module. -/
def effectiveSize (vendor : Answers) (m : Nat) (handle : ModuleHandle) (p : ModuleDescription) :
    Described UInt64 := do
  if p.physicalSize ≠ 0 then return p.physicalSize
  match (← ask vendor (.moduleState handle)) with
  | .error _ => return 0
  | .ok state =>
    takeNote s!"memory module #{m}: using state size {state.size.toNat}"
    return state.size

/-- The note about a module that has been read. -/
def moduleNote (m : Nat) (p : ModuleDescription) : String :=
  let place := s!"on subdevice {p.onSubdevice} #{p.subdeviceId.toNat}"
  s!"memory module #{m}: type {p.memoryType.toNat} location {p.location.toNat} {place} " ++
    s!"size {toKiB p.physicalSize} KiB"

/-- Whether a module is on a subdevice that is not among the first `parts`. -/
def isMisattributed (parts : Nat) (p : ModuleDescription) : Bool :=
  p.onSubdevice && parts ≤ p.subdeviceId.toNat

/-- Reads module number `m` of a device with `parts` subdevices; none if it cannot be read. -/
def readModule (vendor : Answers) (parts m : Nat) (handle : ModuleHandle) :
    Described (Option ModuleDescription) := do
  match (← ask vendor (.moduleProperties handle)) with
  | .error fault =>
    takeNote s!"memory module #{m}: {fault.message}"
    return none
  | .ok reported =>
    let size ← effectiveSize vendor m handle reported
    let p := { reported with physicalSize := size }
    takeNote (moduleNote m p)
    if isMisattributed parts p then
      let culprit := p.subdeviceId.toNat
      raiseWarning .subdeviceAttribution false
        s!"Level Zero: memory module #{m} on unexpected subdevice #{culprit}"
    return some p

/-- The size that a module gives to the subdevice that it is on. -/
def entryOfModule? (parts : Nat) (p : ModuleDescription) : Option MemoryEntry :=
  if p.onSubdevice && p.subdeviceId.toNat < parts && p.physicalSize != 0 then
    some ⟨.part p.subdeviceId.toNat, sizeAttribute p.kind.label (toKiB p.physicalSize)⟩
  else none

/-- The entries of modules that have been read: those of the subdevices in the order of the
modules, then the totals. -/
def moduleEntries (parts : Nat) (modules : List ModuleDescription) : List MemoryEntry :=
  modules.filterMap (entryOfModule? parts) ++
    (modules.foldl MemoryTotals.add {}).attributes.map (MemoryEntry.mk .whole)

/-- The memory sizes of a device and its subdevices by the modules of the device, or why these
cannot be listed. -/
def memoryFromModules (vendor : Answers) (family : DeviceFamily) :
    Described (Except Fault (List MemoryEntry)) := do
  match (← ask vendor (.modules family.whole.handle)) with
  | .error fault => return .error fault
  | .ok handles =>
    let parts := family.parts.length
    let readings ← Traced.collect (fun numbered ↦ readModule vendor parts numbered.2 numbered.1)
      handles.zipIdx
    return .ok (moduleEntries parts (readings.filterMap id))

end AcceleratorTopology
