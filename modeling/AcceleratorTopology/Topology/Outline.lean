import AcceleratorTopology.Topology.Basic

/-!
# The outline of a topology

A topology in print: one block per object, parents before their children, indented by two columns
for each link up to the root. A block is a header line and a line for each attribute.
-/

namespace AcceleratorTopology

/-- The blanks in front of a line at a depth. -/
def indentation (depth : Nat) : String := String.ofList (List.replicate (2 * depth) ' ')

namespace PciIdentity

/-- The address, and the link speed if it is known. -/
def outline (p : PciIdentity) : String :=
  let link := if p.linkSpeed.isPositive then s!" (link={p.linkSpeed.toFixed2}GB/s)" else ""
  s!" {p.address.text}{link}"

end PciIdentity

namespace Object

/-- The header of an object without its indentation. -/
def header (o : Object) : String :=
  match o.kind with
  | .machine => "Machine"
  | .bridge => "PCIBridge" ++ (o.pci.map PciIdentity.outline).getD ""
  | .pciDevice => "PCI" ++ (o.pci.map PciIdentity.outline).getD ""
  | .osDevice =>
    let word := if o.osDevice = some .gpu then "GPU" else "CoProc"
    let subtype := (o.subtype.map fun s ↦ s!"({s})").getD ""
    let name := (o.name.map fun s ↦ s!" \"{s}\"").getD ""
    s!"{word}{subtype}{name}"

/-- The lines of an object at a depth, each with its line end. -/
def block (o : Object) (depth : Nat) : String :=
  let margin := indentation depth
  let lines := o.attributes.map fun a ↦ s!"{margin}  {a.key} = {a.value}\n"
  s!"{margin}{o.header}\n" ++ String.join lines

end Object

namespace Topology

/-- The children of an object that joined after it; in a tree that is all of them. -/
def childrenOf (t : Topology) (id : ObjectId) : List ObjectId :=
  match t.get? id with
  | none => []
  | some o => o.children.filter fun c ↦ id.index < c.index && c.index < t.size

/-- A child joined after its parent. -/
theorem lt_of_mem_childrenOf {t : Topology} {id c : ObjectId} (h : c ∈ t.childrenOf id) :
    id.index < c.index ∧ c.index < t.size := by
  unfold childrenOf at h
  split at h <;> simp_all

/-- The outline of an object at a depth and of all below it. -/
def outlineFrom (t : Topology) (id : ObjectId) (depth : Nat) : String :=
  match t.get? id with
  | none => ""
  | some o =>
    o.block depth ++
      String.join ((t.childrenOf id).attach.map fun c ↦ t.outlineFrom c.1 (depth + 1))
termination_by t.size - id.index
decreasing_by
  have := lt_of_mem_childrenOf c.2
  omega

/-- The outline of a topology. -/
def outline (t : Topology) : String := t.outlineFrom root 0

end Topology

end AcceleratorTopology
