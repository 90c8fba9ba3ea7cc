import AcceleratorTopology.Proofs.Device.Identity
import AcceleratorTopology.Proofs.Discovery.Names
import AcceleratorTopology.Proofs.Discovery.Numbering
import AcceleratorTopology.Proofs.Discovery.SharedChoice

/-!
# Identities of discovered devices

Of all the objects that a pass adds only whole devices show an identity. Its queries about the
nature of devices come member by member, so that it can be told on whose behalf an identity was
asked for.
-/

namespace AcceleratorTopology

open Vendor Settings

section Asked

variable {vendor : Answers} {config : Configuration} {switch : SysmanState} {test : Query → Bool}
  {queries : DeviceHandle → List Query}

private theorem asked_foldlM_visit (hdevices : ∀ driver, test (.devices driver) = false)
    (hlocation : ∀ device, test (.location device) = false)
    (hdescribe : ∀ choice listing,
      asked test (describe vendor config switch choice listing) = queries listing.device)
    (vs : List Visit) (p : Progress) :
    asked test (vs.foldlM (visit vendor config switch) p) =
      (vs.filterMap Visit.site?).flatMap fun s ↦ queries s.device := by
  induction vs generalizing p with
  | nil => rfl
  | cons v vs ih =>
    rw [List.foldlM_cons, asked_bind, ih]
    cases v with
    | driver number handle =>
      have hnone : asked test (visit vendor config switch p (.driver number handle)) = [] :=
        ((asks_visit_driver _ _ _ _ _ _).mono fun _ hq ↦ hq ▸ hdevices handle).asked_eq_nil
      rw [hnone]
      rfl
    | device s =>
      have hplace (d : Description) :
          asked test (placeDevice vendor p.topology s.device d) = [] :=
        ((asks_placeDevice _ _ _ _).mono fun _ hq ↦ hq ▸ hlocation s.device).asked_eq_nil
      rw [visit_device, asked_bind, asked_map, hplace, hdescribe, List.append_nil]
      rfl

/-- If only descriptions ask what passes a test, a pass asks what the descriptions of its devices
do, in order. -/
theorem asked_runPass (hinit : test .init = false) (hdrivers : test .drivers = false)
    (hdevices : ∀ driver, test (.devices driver) = false)
    (hlocation : ∀ device, test (.location device) = false)
    (hdescribe : ∀ choice listing,
      asked test (describe vendor config switch choice listing) = queries listing.device)
    (choice : MemoryChoice) (t : Topology) :
    asked test (runPass vendor config switch choice t) =
      (sites vendor t).flatMap fun s ↦ queries s.device := by
  have hopening : asked test (opening vendor t) = [] := by
    refine ((asks_opening vendor t).mono fun q hq ↦ ?_).asked_eq_nil
    rcases hq with rfl | rfl
    · exact hinit
    · exact hdrivers
  rw [runPass_eq, asked_bind, hopening, asked_foldlM_visit hdevices hlocation hdescribe,
    filterMap_visits]
  rfl

end Asked

/-- A device that is placed in a topology with its subdevices shows its identity, and they show
none. -/
structure Identified (vendor : Answers) (t : Topology) (device : DeviceHandle) (p : Placement) :
    Prop where
  whole : ∃ o, t.get? p.object = some o ∧ ShowsIdentity vendor device o.attributes
  parts : ∀ id ∈ p.subdevices, ∃ o, t.get? id = some o ∧ identityAmong o.attributes = []

/-- A device that shows what was described is identified. -/
theorem Topology.ShowsDevice.identified {vendor : Answers} {config : Configuration}
    {switch : SysmanState} {choice : MemoryChoice} {t : Topology} {listing : Listing}
    {p : Placement}
    (h : t.ShowsDevice p (describe vendor config switch choice listing).value.2) :
    Identified vendor t listing.device p := by
  constructor
  case whole =>
    obtain ⟨o, ho, -, -, hattributes⟩ := h.whole.get?
    exact ⟨o, ho, hattributes ▸ showsIdentity_describe vendor config switch choice listing⟩
  case parts =>
    intro id hid
    obtain ⟨k, hk, rfl⟩ := List.getElem_of_mem hid
    obtain ⟨hlength, hshows⟩ := List.forall₂_iff_get.mp h.parts
    obtain ⟨o, ho, -, -, hattributes⟩ := (hshows k hk (hlength ▸ hk)).get?
    refine ⟨o, ho, ?_⟩
    rw [hattributes]
    exact identityAmong_describe_part vendor config switch choice listing (List.getElem_mem _)

/-- The objects that a pass adds are the devices and subdevices that it reports. A subdevice shows
no identity, and a device shows the strings that are set unless it says that it is a subdevice or
cannot be identified. Whoever is described is asked for properties and queue groups, and in between
for the identity if that is shown, or would be if it could be had. -/
theorem identity_on_real_roots (vendor : Answers) (config : Configuration) (switch : SysmanState)
    (choice : MemoryChoice) (t : Topology) :
    let pass : Pass := runPass vendor config switch choice t
    let final := pass.value.topology
    let devices := (pass.report config).devices
    final.ids = t.ids ++ devices.flatMap (fun p ↦ p.object :: p.subdevices) ∧
    List.Forall₂ (fun s p ↦ Identified vendor final s.device p) (sites vendor t) devices ∧
    asked Query.isAboutNature pass =
      (sites vendor t).flatMap fun s ↦
        (membersOf vendor s.device).flatMap (Member.queries vendor) := by
  have hplaced := placed_runPass vendor config switch choice t
  refine ⟨(calledByNumbers_runPass vendor config switch choice t).ids, ?_, ?_⟩
  · refine List.forall₂_iff_get.mpr ⟨hplaced.length.symm, fun n hs hp ↦ ?_⟩
    obtain ⟨choice, hshows⟩ := hplaced.showing n _ _ (List.getElem?_eq_getElem hs)
      (List.getElem?_eq_getElem hp)
    exact hshows.identified
  · let queries (device : DeviceHandle) : List Query :=
      (membersOf vendor device).flatMap (Member.queries vendor)
    have hdescribe : ∀ choice listing, asked Query.isAboutNature
        (describe vendor config switch choice listing) = queries listing.device :=
      asked_describe vendor config switch
    exact asked_runPass rfl rfl (fun _ ↦ rfl) (fun _ ↦ rfl) hdescribe choice t

/-- A vendor of three devices with one identity, which have their numbers for flags: of the first
two flags the first device has one, the second the other and the third both. -/
def flaggedVendor : Answers
  | .init => .ok ()
  | .drivers => .ok [⟨1⟩]
  | .devices _ => .ok [⟨1⟩, ⟨2⟩, ⟨3⟩]
  | .properties device => .ok ⟨.gpu, 0, 0, .ofNat device.raw, 0, 0, 0, 0, 0, ""⟩
  | .identity _ => .ok ⟨0, "unknown", "B", "C", "D", "E", ""⟩
  | q => .error (.missingEntry q.entryPoint.symbol)

/-- Devices with the second flag are subdevices: no identity is asked for them, and they show
none. -/
example :
    let pass : Pass := runPass flaggedVendor {} .enabled ⟨.core, .unresolved⟩ Topology.bare
    asked Query.isAboutNature pass =
      [.properties ⟨1⟩, .identity ⟨1⟩, .queueGroups ⟨1⟩, .properties ⟨2⟩, .queueGroups ⟨2⟩,
        .properties ⟨3⟩, .queueGroups ⟨3⟩] ∧
    pass.value.topology.objects.map (fun o ↦ (identityAmong o.attributes).map (·.value)) =
      [[], ["E", "D", "C", "B"], [], []] := by decide

end AcceleratorTopology
