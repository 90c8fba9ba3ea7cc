import AcceleratorTopology.Device.Sheet
import AcceleratorTopology.Event.Log
import AcceleratorTopology.Text.Numeral

/-!
# Command-queue groups

The attributes that list the command-queue groups of a device: their number, then for each group
the number of its queues and its flags.
-/

namespace AcceleratorTopology

open Vendor

/-- Queues and flags of a group, as in `4*0x7`. -/
def Vendor.QueueGroup.text (g : QueueGroup) : String :=
  s!"{g.queueCount.toNat}*0x{Text.hexText g.flags.toNat}"

/-- The attributes of some groups; there are none if there are no groups. -/
def queueGroupAttributes (groups : List QueueGroup) : List Attribute :=
  if groups.isEmpty then []
  else
    .number "LevelZeroCQGroups" groups.length ::
      groups.mapIdx fun k g ↦ ⟨s!"LevelZeroCQGroup{k}", g.text⟩

/-- Asks for the queue groups of a device; `name` is what notes call it. -/
def queueAttributes (vendor : Answers) (name : String) (device : DeviceHandle) :
    Described (List Attribute) := do
  match (← ask vendor (.queueGroups device)) with
  | .ok groups => return queueGroupAttributes groups
  | .error fault =>
    takeNote s!"{name}: {fault.message}"
    return []

end AcceleratorTopology
