import AcceleratorTopology.Library.Exports

/-!
# A library as a vendor

How an opened library answers each query, and which calls that takes: one call for a record, the
two phases of `fetchList` for a list, none at all if the entry point is absent.
-/

namespace AcceleratorTopology.Library

open Vendor

/-- A call of an entry point. -/
inductive EntryCall where
  /-- The interface is started with some flags. -/
  | start (flags : UInt32)
  /-- A list is asked for. The buffer is absent, or its slots are handles, or they are records of
  a structure type. -/
  | list (entry : EntryPoint) (handle? : Option Nat) (count : UInt32)
      (buffer? : Option (Option UInt32))
  /-- A record is asked for; `core?` is the structure type of a record inside it. -/
  | record (entry : EntryPoint) (handle : Nat) (structureType : UInt32) (core? : Option UInt32)
  deriving DecidableEq, Repr

/-- The call made with a list request. -/
def ListRequest.entryCall {α : Type} (entry : EntryPoint) (handle? : Option Nat)
    (structureType : α → Option UInt32) (request : ListRequest α) : EntryCall :=
  .list entry handle? request.count
    (request.buffer.map fun slots ↦ slots.head?.bind structureType)

/-- Asks for a list. -/
def list {α : Type} (entry : EntryPoint) (handle? : Option Nat) (blank : α)
    (structureType : α → Option UInt32) (call : ListEntry α) :
    Traced EntryCall (Except Fault (List α)) :=
  let run := fetchList entry.symbol blank call
  ⟨run.events.map (·.entryCall entry handle? structureType), run.value⟩

/-- Asks for a list of handles; an untouched slot is the null handle. -/
def handles {α : Type} (entry : EntryPoint) (handle? : Option Nat) (null : α)
    (call : ListEntry α) : Traced EntryCall (Except Fault (List α)) :=
  list entry handle? null (fun _ ↦ none) call

/-- Asks for a record. -/
def record {ρ : Type} (entry : EntryPoint) (handle : Nat) (blank : ρ) (structureType : UInt32)
    (core? : Option UInt32) (call : RecordEntry ρ) : Traced EntryCall (Except Fault ρ) := do
  Traced.emit (.record entry handle structureType core?)
  let answer := call blank
  return (checked entry.symbol answer.1).map fun _ ↦ answer.2

/-- Asks an entry point that may be absent. -/
def ifPresent {f α : Type} (entry : EntryPoint) (exported : Option f)
    (ask : f → Traced EntryCall (Except Fault α)) : Traced EntryCall (Except Fault α) :=
  match present entry exported with
  | .ok call => ask call
  | .error fault => return .error fault

/-- How the library answers a query, and the calls that it takes. -/
def answer (lib : Library) : (q : Query) → Traced EntryCall (Except Fault q.Answer)
  | .init => do
    Traced.emit (.start 0)
    return checked EntryPoint.init.symbol (lib.init 0)
  | .drivers => handles .driverGet none ⟨0⟩ lib.driverGet
  | .devices driver => handles .deviceGet (some driver.raw) ⟨0⟩ (lib.deviceGet driver)
  | .subdevices device =>
    handles .deviceGetSubDevices (some device.raw) ⟨0⟩ (lib.deviceGetSubDevices device)
  | .properties device => do
    let blank : DeviceRecord := {}
    let reply ← record .deviceGetProperties device.raw blank blank.structureType none
      (lib.deviceGetProperties device)
    return reply.map DeviceRecord.properties
  | .queueGroups device => do
    let reply ← list .deviceGetQueueGroups (some device.raw) {}
      (some ·.structureType) (lib.deviceGetQueueGroups device)
    return reply.map (List.map QueueGroupRecord.group)
  | .memories device => do
    let reply ← list .deviceGetMemories (some device.raw) {}
      (some ·.structureType) (lib.deviceGetMemories device)
    return reply.map (List.map MemoryRecord.properties)
  | .identity device =>
    ifPresent .sysmanDeviceGetProperties lib.sysmanDeviceGetProperties fun call ↦ do
      let blank : IdentityRecord := {}
      let reply ← record .sysmanDeviceGetProperties device.raw blank blank.structureType
        (some blank.core.structureType) (call device)
      return reply.map IdentityRecord.strings
  | .modules device =>
    ifPresent .sysmanEnumModules lib.sysmanEnumModules fun call ↦
      handles .sysmanEnumModules (some device.raw) ⟨0⟩ (call device)
  | .moduleProperties memory =>
    ifPresent .sysmanMemoryGetProperties lib.sysmanMemoryGetProperties fun call ↦ do
      let blank : ModuleRecord := {}
      let reply ← record .sysmanMemoryGetProperties memory.raw blank blank.structureType none
        (call memory)
      return reply.map ModuleRecord.properties
  | .moduleState memory =>
    ifPresent .sysmanMemoryGetState lib.sysmanMemoryGetState fun call ↦ do
      let blank : ModuleStateRecord := {}
      let reply ← record .sysmanMemoryGetState memory.raw blank blank.structureType none
        (call memory)
      return reply.map ModuleStateRecord.state
  | .location device =>
    ifPresent .sysmanPciGetProperties lib.sysmanPciGetProperties fun call ↦ do
      let blank : PciRecord := {}
      let reply ← record .sysmanPciGetProperties device.raw blank blank.structureType none
        (call device)
      return reply.map PciRecord.properties

/-- The library as a vendor. -/
def answers (lib : Library) : Answers := fun q ↦ (lib.answer q).value

/-- The calls that the library takes to answer a query. -/
def calls (lib : Library) (q : Query) : List EntryCall := (lib.answer q).events

end AcceleratorTopology.Library
