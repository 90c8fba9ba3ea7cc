import AcceleratorTopology.Device.CoreMemory
import AcceleratorTopology.Device.ModuleMemory

/-!
# Memory sizes

Which interface memory sizes are read from is settled when the first device is described, and
kept from then on. The automatic preference tries the modules on that device and falls back to
the core interface if they cannot be listed.
-/

namespace AcceleratorTopology

open Vendor Settings

/-- Whether the DDR of a device is left out: it shares the host's, and all DDR was not asked
for. -/
def ignoresDdr (choice : MemoryChoice) (family : DeviceFamily) : Bool :=
  choice.preference ≠ .coreWithDdr && family.integrated

/-- The memory sizes by the core interface, with the choice unchanged. -/
def coreEntries (vendor : Answers) (family : DeviceFamily) (choice : MemoryChoice) :
    Described (MemoryChoice × List MemoryEntry) := do
  let entries ← memoryFromCore vendor family (ignoresDdr choice family)
  return (choice, entries)

/-- The memory sizes by the modules, with the choice unchanged; none if they cannot be listed. -/
def sysmanEntries (vendor : Answers) (family : DeviceFamily) (choice : MemoryChoice) :
    Described (MemoryChoice × List MemoryEntry) := do
  match (← memoryFromModules vendor family) with
  | .ok entries => return (choice, entries)
  | .error fault =>
    takeNote s!"{family.whole.name}: {fault.message}"
    return (choice, [])

/-- Tries the modules and settles for whichever interface answers. -/
def tryModules (vendor : Answers) (family : DeviceFamily) (choice : MemoryChoice) :
    Described (MemoryChoice × List MemoryEntry) := do
  match (← memoryFromModules vendor family) with
  | .ok entries =>
    takeNote "Sysman memory query succeeded, disabling core API memory queries"
    return ({ choice with source := .sysman }, entries)
  | .error fault =>
    takeNote s!"Sysman memory query failed ({fault.message}), using core API memory queries"
    coreEntries vendor family { choice with source := .core }

/-- The memory sizes of a device and its subdevices, and the choice of source from then on. -/
def memorySizes (vendor : Answers) (family : DeviceFamily) (choice : MemoryChoice) :
    Described (MemoryChoice × List MemoryEntry) :=
  match choice.source with
  | .core => coreEntries vendor family choice
  | .sysman => sysmanEntries vendor family choice
  | .unresolved =>
    match choice.preference with
    | .auto => tryModules vendor family choice
    | .sysman => sysmanEntries vendor family { choice with source := .sysman }
    | .core | .coreWithDdr => coreEntries vendor family { choice with source := .core }

end AcceleratorTopology
