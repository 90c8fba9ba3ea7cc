import AcceleratorTopology.Device.Drafts
import AcceleratorTopology.Topology.Placement

/-!
# From drafts to a topology

A device drafted step by step leaves the workspace as the sheets of its root draft and of the
drafts linked below that one.
-/

namespace AcceleratorTopology

open Vendor

namespace Drafts

/-- Takes out a draft and those linked below it; the links are read before anything is taken. -/
def handOver (ds : Drafts) (root : DraftId) : Description :=
  let children := ((ds.get? root).map Draft.children).getD []
  let whole := ds.take root
  ⟨whole.1, (whole.2.takeAll children).1⟩

end Drafts

/-- Adds a drafted device to the topology where it belongs. -/
def placeDrafts (vendor : Answers) (t : Topology) (device : DeviceHandle) (ds : Drafts)
    (root : DraftId) : Described (Topology × Placement) :=
  placeDevice vendor t device (ds.handOver root)

end AcceleratorTopology
