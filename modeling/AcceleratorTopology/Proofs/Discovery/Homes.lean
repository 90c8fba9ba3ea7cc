import AcceleratorTopology.Proofs.Discovery.Growth
import AcceleratorTopology.Proofs.Topology.Search

/-!
# The home of a device

A device hangs below the object that is found for its location. What a pass adds to a topology and
the link speeds that it sets do not matter for what is found, so the home of a device is known
before the pass has placed any other device.
-/

namespace AcceleratorTopology

open Vendor Settings

/-- The object that a device hangs below: the place for its location, and the root if there is none
or the location is not known. -/
def homeOf (vendor : Answers) (t : Topology) (device : DeviceHandle) : ObjectId :=
  match vendor (.location device) with
  | .ok pci => (t.place? pci.address).getD Topology.root
  | .error _ => Topology.root

/-- The home of a device depends on its location. -/
theorem homeOf_congr {vendor vendor' : Answers} {device : DeviceHandle}
    (h : vendor (.location device) = vendor' (.location device)) (t : Topology) :
    homeOf vendor t device = homeOf vendor' t device := by
  rw [homeOf, homeOf, h]

/-- The home of a device is an object that is there. -/
theorem homeOf_mem_ids (vendor : Answers) {t : Topology} (hroot : 0 < t.size)
    (device : DeviceHandle) : homeOf vendor t device ∈ t.ids := by
  have hthere : Topology.root ∈ t.ids := Topology.mem_ids.mpr hroot
  unfold homeOf
  split
  · next pci _ =>
    cases hplace : t.place? pci.address with
    | none => exact hthere
    | some id =>
      obtain ⟨o, ho, -⟩ := Topology.place?_spec hplace
      exact Topology.mem_ids.mpr (Topology.lt_size_of_get? ho)
  · exact hthere

/-- The home of a device is the same in a topology with the same places. -/
theorem Topology.SamePlaces.homeOf_eq {t t' : Topology} (h : t.SamePlaces t') (vendor : Answers)
    (device : DeviceHandle) : homeOf vendor t' device = homeOf vendor t device := by
  simp only [homeOf, h.place?_eq]

/-- A device is located at its home, in a topology that has no more objects than before. -/
theorem value_locate (vendor : Answers) (t : Topology) (name : String) (device : DeviceHandle) :
    (locate vendor t name device).value.2 = homeOf vendor t device ∧
      (locate vendor t name device).value.1.size = t.size := by
  rw [locate, homeOf, Traced.value_bind, value_ask]
  cases vendor (.location device) with
  | error fault => exact ⟨rfl, rfl⟩
  | ok pci =>
    dsimp only
    cases t.place? pci.address with
    | none => exact ⟨rfl, rfl⟩
    | some id =>
      dsimp only
      split
      · exact ⟨rfl, Topology.size_setLinkSpeed t id _⟩
      · exact ⟨rfl, rfl⟩

/-- A device that has been placed is below its home. -/
theorem parent?_placeDevice (vendor : Answers) {t : Topology} (hroot : 0 < t.size)
    (device : DeviceHandle) (d : Description) :
    (placeDevice vendor t device d).value.1.parent? (placeDevice vendor t device d).value.2.object =
      some (homeOf vendor t device) := by
  obtain ⟨hhome, hsize⟩ := value_locate vendor t d.whole.name device
  have hthere : (locate vendor t d.whole.name device).value.2.index <
      (locate vendor t d.whole.name device).value.1.size := by
    rw [hhome, hsize]
    exact Topology.mem_ids.mp (homeOf_mem_ids vendor hroot device)
  have hobject := Topology.get?_insertDevice_object _ hthere d
  rw [placeDevice, Traced.value_bind, Traced.value_pure, Topology.parent?, hobject, ← hhome]
  rfl

/-- Every device that a pass has placed is below the home that it had in the topology at the start,
whatever was placed before and after it. -/
theorem parent?_runPass (vendor : Answers) (config : Configuration) (switch : SysmanState)
    (choice : MemoryChoice) {t : Topology} (hroot : 0 < t.size) :
    let final := (runPass vendor config switch choice t).value
    final.placements.length = (sites vendor t).length ∧
      ∀ (n : Nat) s placement, (sites vendor t)[n]? = some s →
        final.placements[n]? = some placement →
        final.topology.parent? placement.object = some (homeOf vendor t s.device) := by
  have hthere {p : Progress} (h : t.Attachments p.topology) : 0 < p.topology.size :=
    Nat.lt_of_lt_of_le hroot (Topology.size_le_of_attachments h)
  apply runPass_placements (fun p ↦ t.Attachments p.topology)
    (fun final _ s placement ↦ final.parent? placement.object = some (homeOf vendor t s.device))
  case start => exact .refl
  case step =>
    intro p s h
    exact h.trans (attachments_visit vendor config switch (hthere h) s)
  case placed =>
    intro p s placement h hplacements
    rw [value_visit_device] at hplacements ⊢
    cases List.append_cancel_left hplacements
    rw [← (Topology.samePlaces_of_attachments h).homeOf_eq]
    exact parent?_placeDevice vendor (hthere h) s.device _
  case kept =>
    intro p s h n s' placement hparent
    have hvisit := attachments_visit vendor config switch (hthere h) s
    rw [(Topology.samePlaces_of_attachments hvisit).parent _ (Topology.lt_size_of_parent? hparent)]
    exact hparent

end AcceleratorTopology
