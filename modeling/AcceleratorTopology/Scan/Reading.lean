import AcceleratorTopology.Files.View
import AcceleratorTopology.Text.Utf8
import AcceleratorTopology.Topology.Object

/-!
# Reading the directory of a PCI function

The kernel describes a PCI function by a directory with one small file per property, and by a
directory `pci_bus` that names the bus below a bridge. A file that is missing or holds no number
stands for zero.
-/

namespace AcceleratorTopology.Scan

open Files Text

/-- A name given as text. -/
def name (s : String) : Name := Utf8.encode s

/-- The address that a name spells. -/
def addressOf? (entry : Name) : Option Pci.Address :=
  (Utf8.decode? entry).bind Pci.Address.parse?

/-- Takes the mark of hexadecimal numbers off the front. -/
def dropMark : List Char → List Char
  | '0' :: 'x' :: rest => rest
  | rest => rest

/-- The number in the content of a property file: white space around it does not count, and the
mark `0x` may be there or not. -/
def number? (content : List UInt8) : Option UInt32 := do
  let s ← Utf8.decode? content
  hexadecimal? (dropMark (trim s.toList))

/-- The number in a property file, zero if there is none. -/
def property (view : View) (directory : Path) (file : String) : UInt32 :=
  match view.read (directory ++ [name file]) with
  | .ok content => (number? content).getD 0
  | .error _ => 0

/-- The bus that an entry of `pci_bus` names: the number after the last colon. -/
def busOf? (entry : Name) : Option UInt32 := do
  let s ← Utf8.decode? entry
  let (_, bus) ← splitLast? ':' s.toList
  hexadecimal? bus

/-- The lesser of two buses. -/
def lowerBus (a b : UInt32) : UInt32 := if b < a then b else a

/-- The least of some buses. -/
def lowest? : List UInt32 → Option UInt32
  | [] => none
  | bus :: buses => some (buses.foldl lowerBus bus)

/-- The buses below a bridge: the lowest one that `pci_bus` names. -/
def busesBelow? (view : View) (directory : Path) (a : Pci.Address) : Option Pci.BusRange :=
  match view.list (directory ++ [name "pci_bus"]) with
  | .error _ => none
  | .ok entries =>
    let buses := entries.filterMap fun entry ↦ entry.toOption.bind busOf?
    (lowest? buses).map fun bus ↦ ⟨a.domain, bus, bus⟩

/-- The class of bridges between PCI buses. -/
def bridgeClass : UInt16 := 0x0604

/-- The identity that a directory describes. The class file holds the programming interface in
its low byte; numbers too large for their field lose their high bits. -/
def identity (view : View) (directory : Path) (a : Pci.Address) : PciIdentity where
  address := a
  classId := (property view directory "class" >>> 8).toUInt16
  vendorId := (property view directory "vendor").toUInt16
  deviceId := (property view directory "device").toUInt16
  revision := (property view directory "revision").toUInt8

/-- The object that a directory describes. -/
def object (view : View) (directory : Path) (a : Pci.Address) : Object :=
  let found := identity view directory a
  { kind := if found.classId = bridgeClass then .bridge else .pciDevice
    pci := some found
    buses := busesBelow? view directory a }

end AcceleratorTopology.Scan
