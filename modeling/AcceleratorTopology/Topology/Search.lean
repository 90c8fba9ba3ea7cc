import AcceleratorTopology.Topology.Basic

/-!
# Where a device belongs

The object below which a device at a PCI address should hang: the PCI function at that very
address if there is one, and otherwise the deepest bridge above the address's bus.
-/

namespace AcceleratorTopology.Topology

/-- The number of links from an object up to the root. The walk follows links to earlier objects
only, and every object but the root has one. -/
def depth (t : Topology) (id : ObjectId) : Nat :=
  match (t.get? id).bind Object.parent with
  | none => 0
  | some parent => if parent.index < id.index then t.depth parent + 1 else 0
termination_by id.index

/-- The later of two objects unless it is less deep. -/
def deeper (t : Topology) (best id : ObjectId) : ObjectId :=
  if t.depth id < t.depth best then best else id

/-- The deepest of some objects, the last one among those equally deep. -/
def deepest? (t : Topology) : List ObjectId → Option ObjectId
  | [] => none
  | id :: ids => some (ids.foldl t.deeper id)

/-- Whether the object with an identity passes a test. -/
def satisfies (t : Topology) (test : Object → Bool) (id : ObjectId) : Bool :=
  (t.get? id).any test

/-- The object below which a device at an address belongs, if the topology knows the place. -/
def place? (t : Topology) (a : Pci.Address) : Option ObjectId :=
  match t.ids.find? (t.satisfies (·.isAt a)) with
  | some id => some id
  | none => t.deepest? (t.ids.filter (t.satisfies (·.covers a)))

end AcceleratorTopology.Topology
