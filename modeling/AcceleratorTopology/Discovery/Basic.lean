import AcceleratorTopology.Device.Drafting
import AcceleratorTopology.Device.Handover

/-!
# Discovery

One pass over every device of every driver: each is described and placed before the next one is
looked at. No failure of the vendor ends a pass early but that to start and that to list the
drivers; any other failure leaves out what was asked for.
-/

namespace AcceleratorTopology

open Vendor Settings

/-- How far a pass has come. -/
structure Progress where
  topology : Topology
  choice : MemoryChoice
  placements : List Placement := []
  deriving DecidableEq, Repr

/-- Describes and places the device at a position of a driver's list. -/
def discoverDevice (vendor : Answers) (config : Configuration) (switch : SysmanState)
    (driver : Nat) (p : Progress) (numbered : DeviceHandle × Nat) : Described Progress := do
  let listing : Listing := ⟨p.placements.length, driver, numbered.2, numbered.1⟩
  let drafted ← draftDevice vendor config switch p.choice listing
  let placed ← placeDrafts vendor p.topology numbered.1 drafted.drafts drafted.root
  return ⟨placed.1, drafted.choice, p.placements ++ [placed.2]⟩

/-- Describes and places all devices of a driver. -/
def discoverDriver (vendor : Answers) (config : Configuration) (switch : SysmanState)
    (p : Progress) (numbered : DriverHandle × Nat) : Described Progress := do
  match (← ask vendor (.devices numbered.1)) with
  | .error fault =>
    takeNote s!"driver #{numbered.2}: {fault.message}"
    return p
  | .ok devices => devices.zipIdx.foldlM (discoverDevice vendor config switch numbered.2) p

/-- A pass over all drivers, unless the topology keeps no operating-system devices. -/
def runPass (vendor : Answers) (config : Configuration) (switch : SysmanState)
    (choice : MemoryChoice) (t : Topology) : Described Progress := do
  let start : Progress := { topology := t, choice }
  if t.retentions.get .osDevice = .keepNone then return start
  match (← ask vendor .init) with
  | .error fault =>
    raiseWarning .runtimeInit false s!"Failed to initialize Level Zero in zeInit(): {fault.message}"
    return start
  | .ok () =>
    match (← ask vendor .drivers) with
    | .error fault =>
      takeNote fault.message
      return start
    | .ok drivers => drivers.zipIdx.foldlM (discoverDriver vendor config switch) start

/-- What a pass reports to its caller. -/
structure Report where
  devices : List Placement
  warnings : List Warning
  deriving DecidableEq, Repr

/-- A pass: what came of it, by way of which events. -/
abbrev Pass := Described Progress

namespace Pass

/-- The warnings of a pass, and what an onlooker saw of it. -/
def observed (config : Configuration) (pass : Pass) : Warnings × List LogLine :=
  ({ hidden := config.hideErrors } : Warnings).observe pass.events

/-- What a pass reports. -/
def report (config : Configuration) (pass : Pass) : Report :=
  ⟨pass.value.placements, (observed config pass).1.recorded⟩

/-- What an onlooker saw of a pass. -/
def log (config : Configuration) (pass : Pass) : List LogLine := (observed config pass).2

/-- The queries that a pass put to the vendor, in order. -/
def queries (pass : Pass) : List Query := Event.queries pass.events

end Pass

end AcceleratorTopology
