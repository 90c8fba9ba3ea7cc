import AcceleratorTopology.Scan.Reading
import AcceleratorTopology.Topology.Basic
import AcceleratorTopology.Vendor.Fault

/-!
# Scanning PCI devices

Fills a topology from a directory that lists PCI functions by address, each entry leading to the
function's own directory. These are nested as the functions are wired: the function that another
one is behind is the nearest directory above it that is named by an address. All entries are
listed before the first object is added, so a listing that fails changes nothing.
-/

namespace AcceleratorTopology.Scan

open Files

/-- A listed function: its address, its own directory, and the address it is behind. -/
structure Entry where
  address : Pci.Address
  directory : Path
  behind : Option Pci.Address
  deriving DecidableEq, Repr

/-- The nearest address among the names above a directory. -/
def addressAbove? (directory : Path) : Option Pci.Address :=
  directory.dropLast.reverse.findSome? addressOf?

/-- What an entry of the listing stands for; nothing if its name is no address or it leads
nowhere. -/
def entryNamed? (view : View) (listing : Path) (name : Name) : Option Entry := do
  let address ← addressOf? name
  let directory ← (view.resolve (listing ++ [name])).toOption
  return ⟨address, directory, addressAbove? directory⟩

/-- The functions that a directory lists, or why it cannot be listed to its end. -/
def entries (view : View) (listing : Path) : Except FileError (List Entry) := do
  let listed ← view.list listing
  let names ← listed.mapM id
  return names.filterMap (entryNamed? view listing)

/-- Whether an entry is added no later than another: directories higher up come first, then lower
addresses. -/
def Entry.precedes (e f : Entry) : Bool :=
  e.directory.length < f.directory.length ||
    (e.directory.length == f.directory.length && e.address.rank ≤ f.address.rank)

/-- The objects added so far, by address; the latest for each. -/
abbrev Added := List (Pci.Address × ObjectId)

/-- Remembers the object added for an address. -/
def Added.put (added : Added) (a : Pci.Address) (id : ObjectId) : Added :=
  (a, id) :: added.filter (·.1 != a)

/-- The object to add an entry below: the one it is behind, or the root. -/
def parentOf (added : Added) (e : Entry) : ObjectId :=
  (e.behind.bind fun a ↦ added.lookup a).getD Topology.root

/-- Adds the object of an entry. -/
def addEntry (view : View) (state : Topology × Added) (e : Entry) : Topology × Added :=
  (state.1.insert (parentOf state.2 e) (object view e.directory e.address),
    state.2.put e.address state.1.nextId)

/-- Adds the objects of all entries, parents first. -/
def addEntries (view : View) (t : Topology) (es : List Entry) : Topology × Added :=
  (es.mergeSort Entry.precedes).foldl (addEntry view) (t, [])

/-- Scans a directory; with the number of addresses for which objects were added. -/
def scan (view : View) (listing : Path) (t : Topology) : Except Vendor.Fault (Topology × Nat) :=
  match entries view listing with
  | .error e => .error (.system e.message)
  | .ok es =>
    let added := addEntries view t es
    .ok (added.1, added.2.length)

end AcceleratorTopology.Scan
