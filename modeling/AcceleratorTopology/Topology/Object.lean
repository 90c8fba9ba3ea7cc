import AcceleratorTopology.Binary32
import AcceleratorTopology.Device.Sheet
import AcceleratorTopology.Pci.Address

/-!
# Objects

The objects of a host topology: the machine, PCI bridges and devices, and the devices that the
operating system sees.
-/

namespace AcceleratorTopology

/-- The position of an object in the order in which objects joined the topology. -/
structure ObjectId where
  index : Nat
  deriving DecidableEq, Repr

/-- What an object is. -/
inductive ObjectKind where
  | machine
  | bridge
  | pciDevice
  | osDevice
  deriving DecidableEq, Repr

/-- What an operating-system device is. -/
inductive OsDeviceKind where
  | gpu
  | coprocessor
  deriving DecidableEq, Repr

/-- The PCI identity of an object and the speed of its link in GB/s, zero when unknown. -/
structure PciIdentity where
  address : Pci.Address := {}
  classId : UInt16 := 0
  vendorId : UInt16 := 0
  deviceId : UInt16 := 0
  revision : UInt8 := 0
  linkSpeed : Binary32 := .zero
  deriving DecidableEq, Repr

/-- An object with its links to the object above it and to those below it. -/
structure Object where
  kind : ObjectKind
  osDevice : Option OsDeviceKind := none
  name : Option String := none
  subtype : Option String := none
  attributes : List Attribute := []
  pci : Option PciIdentity := none
  buses : Option Pci.BusRange := none
  parent : Option ObjectId := none
  children : List ObjectId := []
  deriving DecidableEq, Repr

namespace Object

/-- An object of the operating system that carries a sheet. -/
def ofSheet (osDevice : OsDeviceKind) (s : Sheet) : Object where
  kind := .osDevice
  osDevice := some osDevice
  name := some s.name
  subtype := s.subtype
  attributes := s.attributes

/-- Whether the object is the PCI function at an address. -/
def isAt (o : Object) (a : Pci.Address) : Bool := o.pci.any fun p ↦ p.address == a

/-- Whether an address lies on a bus below the object. -/
def covers (o : Object) (a : Pci.Address) : Bool := o.buses.any fun r ↦ r.contains a

end Object

end AcceleratorTopology
