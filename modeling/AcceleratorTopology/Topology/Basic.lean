import AcceleratorTopology.Topology.Object

/-!
# Topologies

A topology is a list of objects whose first is the machine, the root of a tree. An object joins
below an object that is already there; nothing is ever removed. Links are kept at both ends.
-/

namespace AcceleratorTopology

/-- Which objects of a kind a discovery should keep. -/
inductive Retention where
  | keepAll
  | keepNone
  | keepImportant
  | keepStructure
  deriving DecidableEq, Repr

/-- One retention for each kind of object. -/
structure Retentions where
  machine : Retention := .keepAll
  bridge : Retention := .keepAll
  pciDevice : Retention := .keepAll
  osDevice : Retention := .keepAll
  deriving DecidableEq, Repr

/-- The retention of a kind. -/
def Retentions.get (r : Retentions) : ObjectKind → Retention
  | .machine => r.machine
  | .bridge => r.bridge
  | .pciDevice => r.pciDevice
  | .osDevice => r.osDevice

/-- Sets the retention of a kind. -/
def Retentions.set (r : Retentions) (kind : ObjectKind) (value : Retention) : Retentions :=
  match kind with
  | .machine => { r with machine := value }
  | .bridge => { r with bridge := value }
  | .pciDevice => { r with pciDevice := value }
  | .osDevice => { r with osDevice := value }

/-- Setting a retention changes that of its kind and no other. -/
theorem Retentions.get_set (r : Retentions) (kind other : ObjectKind) (value : Retention) :
    (r.set kind value).get other = if other = kind then value else r.get other := by
  cases kind <;> cases other <;> rfl

/-- A host topology. -/
structure Topology where
  objects : List Object
  retentions : Retentions := {}
  deriving DecidableEq, Repr

namespace Topology

/-- The topology of a bare machine. -/
def bare : Topology := ⟨[{ kind := .machine }], {}⟩

/-- The object that every other one is below. -/
def root : ObjectId := ⟨0⟩

/-- The number of objects. -/
def size (t : Topology) : Nat := t.objects.length

/-- The identities of all objects, in the order in which they joined. -/
def ids (t : Topology) : List ObjectId := (List.range t.size).map ObjectId.mk

/-- The identity that the next object will get. -/
def nextId (t : Topology) : ObjectId := ⟨t.size⟩

/-- The object with an identity. -/
def get? (t : Topology) (id : ObjectId) : Option Object := t.objects[id.index]?

/-- Changes an object in place. -/
def modify (t : Topology) (id : ObjectId) (f : Object → Object) : Topology :=
  { t with objects := t.objects.modify id.index f }

/-- Sets the retention of a kind. -/
def setRetention (t : Topology) (kind : ObjectKind) (value : Retention) : Topology :=
  { t with retentions := t.retentions.set kind value }

/-- Adds an object as the last child of `parent`. Links that it brings along are dropped. -/
def insert (t : Topology) (parent : ObjectId) (o : Object) : Topology :=
  let joined := { o with parent := some parent, children := [] }
  modify { t with objects := t.objects ++ [joined] } parent fun p ↦
    { p with children := p.children ++ [t.nextId] }

/-- Adds an object below an identity that comes from elsewhere, refused if the topology has no
such object once the new one is in. -/
def insert? (t : Topology) (parent : ObjectId) (o : Object) : Option (Topology × ObjectId) :=
  if parent.index ≤ t.size then some (t.insert parent o, t.nextId) else none

/-- Adds the device that a sheet describes. -/
def insertSheet (t : Topology) (parent : ObjectId) (s : Sheet) : Topology :=
  t.insert parent (.ofSheet .coprocessor s)

/-- Whether an object is a PCI device with an identity, so that its link speed can be set. -/
def hasLink (t : Topology) (id : ObjectId) : Bool :=
  (t.get? id).any fun o ↦ o.kind == .pciDevice && o.pci.isSome

/-- Records the speed of a PCI device's link; any other object is left alone. -/
def setLinkSpeed (t : Topology) (id : ObjectId) (speed : Binary32) : Topology :=
  if t.hasLink id then
    t.modify id fun o ↦ { o with pci := o.pci.map fun p ↦ { p with linkSpeed := speed } }
  else t

/-- Looking up after a change in place. -/
theorem get?_modify (t : Topology) (id j : ObjectId) (f : Object → Object) :
    (t.modify id f).get? j = if id = j then (t.get? j).map f else t.get? j := by
  obtain ⟨i⟩ := id; obtain ⟨j⟩ := j
  simp [get?, modify, List.getElem?_modify]
  split <;> simp_all

/-- A change in place adds nothing. -/
@[simp] theorem size_modify (t : Topology) (id : ObjectId) (f : Object → Object) :
    (t.modify id f).size = t.size := by
  simp [size, modify]

/-- Adding an object makes the topology one larger. -/
@[simp] theorem size_insert (t : Topology) (parent : ObjectId) (o : Object) :
    (t.insert parent o).size = t.size + 1 := by
  simp [insert, modify, size]

/-- Looking up after adding below an object that is there: the new object has its links set, its
parent has one more child, all else is as it was. -/
theorem get?_insert (t : Topology) (parent : ObjectId) (o : Object) (h : parent.index < t.size)
    (j : ObjectId) :
    (t.insert parent o).get? j =
      if j = t.nextId then some { o with parent := some parent, children := [] }
      else if j = parent then
        (t.get? j).map fun p ↦ { p with children := p.children ++ [t.nextId] }
      else t.get? j := by
  obtain ⟨p⟩ := parent; obtain ⟨j⟩ := j
  simp only [size] at h
  simp only [insert, modify, nextId, get?, size, ObjectId.mk.injEq, List.getElem?_modify,
    List.getElem?_append]
  grind

/-- Adding an object keeps the retentions. -/
@[simp] theorem retentions_insert (t : Topology) (parent : ObjectId) (o : Object) :
    (t.insert parent o).retentions = t.retentions := rfl

/-- Looking up after setting a link speed. -/
theorem get?_setLinkSpeed (t : Topology) (id j : ObjectId) (speed : Binary32) :
    (t.setLinkSpeed id speed).get? j =
      if id = j ∧ t.hasLink id = true then
        (t.get? j).map fun o ↦ { o with pci := o.pci.map fun p ↦ { p with linkSpeed := speed } }
      else t.get? j := by
  unfold setLinkSpeed
  split <;> simp_all [get?_modify]

/-- Setting a link speed keeps the retentions. -/
@[simp] theorem retentions_setLinkSpeed (t : Topology) (id : ObjectId) (speed : Binary32) :
    (t.setLinkSpeed id speed).retentions = t.retentions := by
  unfold setLinkSpeed; split <;> rfl

/-- Setting a link speed adds nothing. -/
@[simp] theorem size_setLinkSpeed (t : Topology) (id : ObjectId) (speed : Binary32) :
    (t.setLinkSpeed id speed).size = t.size := by
  unfold setLinkSpeed; split <;> simp

end Topology

end AcceleratorTopology
