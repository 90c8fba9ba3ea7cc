import AcceleratorTopology.Proofs.Device.Contents
import AcceleratorTopology.Proofs.Discovery.Visits
import AcceleratorTopology.Proofs.Topology.Sheets

/-!
# How devices are numbered

A pass reports the devices of all drivers in the order in which they are listed. The number in a
device's name counts the devices before it, while its attributes keep the number of its driver and
its place in that driver's list.
-/

namespace AcceleratorTopology

open Vendor Settings

/-- Device number `n`, listed at a site and placed in a topology: its name and its numbers, and
those of its subdevices. -/
structure Numbered (vendor : Answers) (config : Configuration) (t : Topology) (n : Nat) (s : Site)
    (p : Placement) : Prop where
  whole : ∃ o, t.get? p.object = some o ∧ o.name = some (config.namePrefix ++ toString n) ∧
    Attribute.lookup? o.attributes "LevelZeroDriverIndex" = some (toString s.driver) ∧
    Attribute.lookup? o.attributes "LevelZeroDriverDeviceIndex" = some (toString s.position) ∧
    Attribute.lookup? o.attributes "LevelZeroSubdevices" =
      if p.subdevices.length = 0 then none else some (toString p.subdevices.length)
  count : p.subdevices.length = (subdeviceHandles vendor s.device).length
  parts : ∀ (k : Nat) id, p.subdevices[k]? = some id → ∃ o, t.get? id = some o ∧
    o.name = some (config.namePrefix ++ toString n ++ "." ++ toString k) ∧
    Attribute.lookup? o.attributes "LevelZeroSubdeviceID" = some (toString k)

/-- A device that shows what was described is numbered. -/
theorem Topology.ShowsDevice.numbered {vendor : Answers} {config : Configuration}
    {switch : SysmanState} {choice : MemoryChoice} {t : Topology} {n : Nat} {s : Site}
    {p : Placement}
    (h : t.ShowsDevice p (describe vendor config switch choice
      ⟨n, s.driver, s.position, s.device⟩).value.2) : Numbered vendor config t n s p := by
  have hcount : p.subdevices.length = (subdeviceHandles vendor s.device).length := by
    rw [h.parts.length_eq, length_describe_parts]
  constructor
  case whole =>
    obtain ⟨o, ho, hname, -, hattributes⟩ := h.whole.get?
    have hnumbers := lookup?_describe_numbers vendor config switch choice
      ⟨n, s.driver, s.position, s.device⟩
    refine ⟨o, ho, ?_, ?_, ?_, ?_⟩
    · rw [hname, name_describe_whole]
    · rw [hattributes, hnumbers.1]
    · rw [hattributes, hnumbers.2]
    · rw [hattributes, lookup?_describe_subdevices, hcount]
  case count => exact hcount
  case parts =>
    intro k id hk
    obtain ⟨hlength, hshows⟩ := List.forall₂_iff_get.mp h.parts
    obtain ⟨hlt, rfl⟩ := List.getElem?_eq_some_iff.mp hk
    obtain ⟨o, ho, hname, -, hattributes⟩ := (hshows k hlt (hlength ▸ hlt)).get?
    have hpart := describe_part vendor config switch choice ⟨n, s.driver, s.position, s.device⟩
      (List.getElem?_eq_getElem (hlength ▸ hlt))
    refine ⟨o, ho, ?_, ?_⟩
    · rw [hname]
      exact congrArg some hpart.1
    · rw [hattributes]
      exact hpart.2

/-- Some sites are done: each has a placement, in order, that shows the device there as it was
described. -/
structure Placed (vendor : Answers) (config : Configuration) (switch : SysmanState)
    (done : List Site) (p : Progress) : Prop where
  length : p.placements.length = done.length
  showing : ∀ n s placement, done[n]? = some s → p.placements[n]? = some placement →
    ∃ choice, p.topology.ShowsDevice placement
      (describe vendor config switch choice ⟨n, s.driver, s.position, s.device⟩).value.2

/-- A pass places all of its sites. -/
theorem placed_runPass (vendor : Answers) (config : Configuration) (switch : SysmanState)
    (choice : MemoryChoice) (t : Topology) :
    Placed vendor config switch (sites vendor t) (runPass vendor config switch choice t).value := by
  refine And.elim Placed.mk (runPass_placements (fun _ ↦ True)
    (fun t n s placement ↦ ∃ choice, t.ShowsDevice placement
      (describe vendor config switch choice ⟨n, s.driver, s.position, s.device⟩).value.2)
    trivial (fun _ _ _ ↦ trivial) ?_ ?_)
  · intro p s placement _ hplacements
    rw [value_visit_device] at hplacements ⊢
    have hlast := List.append_cancel_left hplacements
    cases hlast
    exact ⟨p.choice, showsDevice_placeDevice vendor p.topology s.device _⟩
  · rintro p s - n s' placement ⟨choice, hshows⟩
    rw [value_visit_device]
    exact ⟨choice, hshows.mono ⟨_, (sheets_placeDevice vendor p.topology s.device _).symm⟩⟩

/-- Some sites are all devices that some drivers list, each once, in the order of the drivers and
of their lists. -/
structure Listed (vendor : Answers) (drivers : List DriverHandle) (listed : List Site) : Prop where
  mem : ∀ s, s ∈ listed ↔ ∃ driver devices, drivers[s.driver]? = some driver ∧
    vendor (.devices driver) = .ok devices ∧ devices[s.position]? = some s.device
  ordered : listed.Pairwise Site.Before

/-- A pass reports one device for each device that a driver lists, in the order of the drivers and
of their lists, whatever else the vendor answers. They are numbered without gaps, and carry the
numbers of their drivers and of their places there. -/
theorem reported_devices_numbered {vendor : Answers} {t : Topology} {drivers : List DriverHandle}
    (config : Configuration) (switch : SysmanState) (choice : MemoryChoice)
    (hkeep : t.retentions.get .osDevice ≠ .keepNone) (hinit : vendor .init = .ok ())
    (hdrivers : vendor .drivers = .ok drivers) :
    let pass : Pass := runPass vendor config switch choice t
    let devices := (pass.report config).devices
    ∃ listed, Listed vendor drivers listed ∧ devices.length = listed.length ∧
      ∀ n s placement, listed[n]? = some s → devices[n]? = some placement →
        Numbered vendor config pass.value.topology n s placement := by
  have hplaced := placed_runPass vendor config switch choice t
  refine ⟨sites vendor t, ⟨?_, pairwise_sites vendor t⟩, hplaced.length, ?_⟩
  · intro s
    rw [mem_sites, value_opening hkeep hinit hdrivers]
  · intro n s placement hs hplacement
    obtain ⟨_, hshows⟩ := hplaced.showing n s placement hs hplacement
    exact hshows.numbered

/-- A vendor with two drivers, the first of which fails to list its devices while the second lists
one device twice. The device has two subdevices, and nothing else is known of it. -/
def relistingVendor : Answers
  | .init => .ok ()
  | .drivers => .ok [⟨1⟩, ⟨2⟩]
  | .devices ⟨2⟩ => .ok [⟨7⟩, ⟨7⟩]
  | .subdevices ⟨7⟩ => .ok [⟨8⟩, ⟨9⟩]
  | q => .error (.missingEntry q.entryPoint.symbol)

/-- The devices behind a driver that fails are numbered, also if they are one and the same. -/
theorem relisted_devices_numbered :
    Topology.bare.retentions.get .osDevice ≠ .keepNone ∧ relistingVendor .init = .ok () ∧
    relistingVendor .drivers = .ok [⟨1⟩, ⟨2⟩] ∧
    let pass : Pass := runPass relistingVendor {} .enabled ⟨.auto, .unresolved⟩ .bare
    let devices := (pass.report {}).devices
    ∃ listed, Listed relistingVendor [⟨1⟩, ⟨2⟩] listed ∧ devices.length = listed.length ∧
      ∀ n s placement, listed[n]? = some s → devices[n]? = some placement →
        Numbered relistingVendor {} pass.value.topology n s placement := by
  have hkeep : Topology.bare.retentions.get .osDevice ≠ .keepNone := by decide
  exact ⟨hkeep, rfl, rfl, reported_devices_numbered {} .enabled _ hkeep rfl rfl⟩

end AcceleratorTopology
