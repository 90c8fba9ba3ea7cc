import AcceleratorTopology.Device.Description
import AcceleratorTopology.Topology.Search

/-!
# Placing devices

A described device joins the topology below the PCI object at its location, or below the root if
its location is not known; its subdevices join below it.
-/

namespace AcceleratorTopology

open Vendor

/-- Where a device and its subdevices ended up. -/
structure Placement where
  object : ObjectId
  subdevices : List ObjectId
  deriving DecidableEq, Repr

namespace Topology

/-- The identities that `count` objects get from now on. -/
def nextIds (t : Topology) (count : Nat) : List ObjectId :=
  (List.range count).map fun k ↦ ⟨t.size + k⟩

/-- Adds sheets one after another below the same object. -/
def insertSheets (t : Topology) (parent : ObjectId) (sheets : List Sheet) : Topology :=
  sheets.foldl (fun t s ↦ t.insertSheet parent s) t

/-- Adds a described device and its subdevices below it. -/
def insertDevice (t : Topology) (parent : ObjectId) (d : Description) : Topology × Placement :=
  let whole := t.insertSheet parent d.whole
  (whole.insertSheets t.nextId d.parts, ⟨t.nextId, whole.nextIds d.parts.length⟩)

end Topology

/-- The link speed in GB/s for a bandwidth in bytes per second: the bandwidth as a binary32
number, divided by a thousand million. -/
def linkSpeed (bandwidth : Int64) : Binary32 :=
  (Binary32.ofNat bandwidth.toInt.toNat).divNat 1000000000

/-- Finds the object below which a device belongs, by its PCI location, and records the speed of
the link there if it is known. -/
def locate (vendor : Answers) (t : Topology) (name : String) (device : DeviceHandle) :
    Described (Topology × ObjectId) := do
  match (← ask vendor (.location device)) with
  | .error fault =>
    takeNote s!"{name}: {fault.message}"
    return (t, Topology.root)
  | .ok pci =>
    match t.place? pci.address with
    | none =>
      takeNote s!"no PCI object at {pci.address.text} for {name}"
      return (t, Topology.root)
    | some id =>
      if 0 < pci.maxBandwidth then
        return (t.setLinkSpeed id (linkSpeed pci.maxBandwidth), id)
      return (t, id)

/-- Adds a described device to the topology where it belongs. -/
def placeDevice (vendor : Answers) (t : Topology) (device : DeviceHandle) (d : Description) :
    Described (Topology × Placement) := do
  let located ← locate vendor t d.whole.name device
  return located.1.insertDevice located.2 d

end AcceleratorTopology
