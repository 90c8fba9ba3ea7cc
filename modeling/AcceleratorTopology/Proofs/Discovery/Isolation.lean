import AcceleratorTopology.Proofs.Discovery.EmptyLists
import AcceleratorTopology.Proofs.Discovery.Homes

/-!
# Devices do not disturb one another

A pass threads a topology, a choice of source and a list of warnings through all devices. What it
says of a device, and where it hangs it, depends on what the vendor answers about that device alone,
once the source of memory sizes is not to be tried out.
-/

namespace AcceleratorTopology

open Vendor Settings

/-- A device at a site and where a pass put it: it shows what was described, and is below its
home. -/
structure AtHome (vendor : Answers) (config : Configuration) (switch : SysmanState)
    (choice : MemoryChoice) (start final : Topology) (n : Nat) (s : Site) (p : Placement) :
    Prop where
  shows : final.ShowsDevice p
    (describe vendor config switch choice ⟨n, s.driver, s.position, s.device⟩).value.2
  home : final.parent? p.object = some (homeOf vendor start s.device)

/-- How far a pass has come that a fixed choice started: the choice is the same except that it may
be settled. -/
structure Undisturbed (choice : MemoryChoice) (p : Progress) : Prop where
  fixed : p.choice.IsFixed
  settled : p.choice.settled = choice.settled

section Visit

variable {vendor : Answers} {config : Configuration} {switch : SysmanState} {choice : MemoryChoice}
  {p : Progress}

private theorem Undisturbed.describe_eq (h : Undisturbed choice p) (listing : Listing) :
    describe vendor config switch p.choice listing =
      describe vendor config switch choice listing := by
  rw [← describe_settled, h.settled, describe_settled]

/-- A visit to a device disturbs nothing. -/
theorem Undisturbed.visit (h : Undisturbed choice p) (s : Site) :
    Undisturbed choice (visit vendor config switch p (.device s)).value := by
  constructor
  case fixed => exact isFixed_visit vendor config switch h.fixed (.device s)
  case settled =>
    rw [value_visit_device]
    exact (congrArg _ (h.fixed.value_describe vendor config switch _)).trans
      ((MemoryChoice.settled_settled _).trans h.settled)

end Visit

/-- In a pass that a fixed choice starts every device shows what the choice describes. -/
theorem showsDevice_runPass (vendor : Answers) (config : Configuration) (switch : SysmanState)
    {choice : MemoryChoice} (hfixed : choice.IsFixed) (t : Topology) :
    let final := (runPass vendor config switch choice t).value
    final.placements.length = (sites vendor t).length ∧
      ∀ (n : Nat) s placement, (sites vendor t)[n]? = some s →
        final.placements[n]? = some placement → final.topology.ShowsDevice placement
          (describe vendor config switch choice ⟨n, s.driver, s.position, s.device⟩).value.2 := by
  apply runPass_placements (Undisturbed choice) fun final n s placement ↦
    final.ShowsDevice placement
      (describe vendor config switch choice ⟨n, s.driver, s.position, s.device⟩).value.2
  case start => exact ⟨hfixed, rfl⟩
  case step =>
    intro p s h
    exact h.visit s
  case placed =>
    intro p s placement h hplacements
    rw [value_visit_device, h.describe_eq] at hplacements ⊢
    cases List.append_cancel_left hplacements
    exact showsDevice_placeDevice vendor p.topology s.device _
  case kept =>
    intro p s _ n s' placement h
    rw [value_visit_device]
    exact h.mono ⟨_, (sheets_placeDevice vendor p.topology s.device _).symm⟩

/-- A pass that a fixed choice starts brings every device home. -/
theorem atHome_runPass (vendor : Answers) (config : Configuration) (switch : SysmanState)
    {choice : MemoryChoice} (hfixed : choice.IsFixed) {t : Topology} (hroot : 0 < t.size) :
    let final := (runPass vendor config switch choice t).value
    final.placements.length = (sites vendor t).length ∧
      ∀ n s placement, (sites vendor t)[n]? = some s → final.placements[n]? = some placement →
        AtHome vendor config switch choice t final.topology n s placement := by
  obtain ⟨hlength, hhome⟩ := parent?_runPass vendor config switch choice hroot
  obtain ⟨-, hshows⟩ := showsDevice_runPass vendor config switch hfixed t
  exact ⟨hlength, fun n s p hs hp ↦ ⟨hshows n s p hs hp, hhome n s p hs hp⟩⟩

private theorem allSites_congr {vendor vendor' : Answers} {drivers : List DriverHandle}
    (h : ∀ driver ∈ drivers,
      (vendor (.devices driver)).toOption = (vendor' (.devices driver)).toOption) :
    allSites vendor drivers = allSites vendor' drivers := by
  refine List.flatMap_congr fun numbered hn ↦ ?_
  have hlist : listed (vendor (.devices numbered.1)) = listed (vendor' (.devices numbered.1)) :=
    congrArg (Option.getD · []) (h numbered.1 (List.fst_mem_of_mem_zipIdx hn))
  rw [sitesOf_eq_listed, sitesOf_eq_listed, hlist]

/-- Devices are isolated from one another. Take two vendors that start, list the same drivers and
the same devices, and a source of memory sizes that is not to be tried out. A device about which
they give the same answers, also about its subdevices and its modules, gets the same sheets in both
passes and hangs below the same object of the topology at the start, whatever the vendors answer
about all other devices. -/
theorem devices_isolated {vendor vendor' : Answers} {drivers : List DriverHandle}
    (config : Configuration) (switch : SysmanState) {choice : MemoryChoice} {t : Topology}
    (hroot : 0 < t.size) (hchoice : choice.source ≠ .unresolved ∨ choice.preference ≠ .auto)
    (hinit : vendor .init = .ok ()) (hinit' : vendor' .init = .ok ())
    (hdrivers : vendor .drivers = .ok drivers) (hdrivers' : vendor' .drivers = .ok drivers)
    (hdevices : ∀ driver ∈ drivers,
      (vendor (.devices driver)).toOption = (vendor' (.devices driver)).toOption) :
    let pass : Pass := runPass vendor config switch choice t
    let pass' : Pass := runPass vendor' config switch choice t
    let devices := (pass.report config).devices
    let devices' := (pass'.report config).devices
    ∃ listed, Listed vendor drivers listed ∧ Listed vendor' drivers listed ∧
      (t.retentions.get .osDevice ≠ .keepNone →
        devices.length = listed.length ∧ devices'.length = listed.length) ∧
      ∀ (n : Nat) s p p', listed[n]? = some s → devices[n]? = some p → devices'[n]? = some p' →
        (∀ q, Concerns vendor s.device q → vendor q = vendor' q) →
        (∃ d, pass.value.topology.ShowsDevice p d ∧ pass'.value.topology.ShowsDevice p' d) ∧
        ∃ home ∈ t.ids, pass.value.topology.parent? p.object = some home ∧
          pass'.value.topology.parent? p'.object = some home := by
  intro pass pass' devices devices'
  obtain ⟨hlength, hhome⟩ := atHome_runPass vendor config switch hchoice hroot
  obtain ⟨hlength', hhome'⟩ := atHome_runPass vendor' config switch hchoice hroot
  rw [sites_eq t hinit hdrivers] at hlength hhome
  rw [sites_eq t hinit' hdrivers', ← allSites_congr hdevices] at hlength' hhome'
  refine ⟨allSites vendor drivers, ⟨fun s ↦ mem_allSites, pairwise_allSites vendor drivers⟩,
    ?_, ?_, ?_⟩
  · rw [allSites_congr hdevices]
    exact ⟨fun s ↦ mem_allSites, pairwise_allSites vendor' drivers⟩
  · intro hkeep
    rw [if_neg hkeep] at hlength hlength'
    exact ⟨hlength, hlength'⟩
  · intro n s p p' hs hp hp' hagree
    by_cases hnone : t.retentions.get .osDevice = .keepNone
    · -- No device is kept, so none is reported.
      rw [if_pos hnone] at hlength
      have hempty : devices = [] := List.eq_nil_of_length_eq_zero hlength
      rw [hempty] at hp
      cases hp
    · rw [if_neg hnone] at hhome hhome'
      have hat := hhome n s p hs hp
      have hat' := hhome' n s p' hs hp'
      have hlocation : vendor (.location s.device) = vendor' (.location s.device) :=
        hagree _ (.whole rfl)
      let listing : Listing := ⟨n, s.driver, s.position, s.device⟩
      have hdescribe : Traced.Alike Event.noNote? Eq
          (describe vendor config switch choice listing)
          (describe vendor' config switch choice listing) :=
        describe_of_concur (fun q hq ↦ Concur.of_eq (hagree q hq)) config switch (Or.inl hchoice)
      refine ⟨⟨_, hat.shows, ?_⟩, _, homeOf_mem_ids vendor hroot s.device, hat.home, ?_⟩
      · rw [hdescribe.value]
        exact hat'.shows
      · rw [hat'.home, homeOf_congr hlocation]

/-- A vendor with two devices at the same address. The first has the subdevices that are given, the
second has one of its own. -/
def neighbourVendor (subdevices : List DeviceHandle) : Answers
  | .init => .ok ()
  | .drivers => .ok [⟨1⟩]
  | .devices _ => .ok [⟨6⟩, ⟨7⟩]
  | .subdevices ⟨6⟩ => .ok subdevices
  | .subdevices ⟨7⟩ => .ok [⟨8⟩]
  | .location _ => .ok ⟨{ bus := 3 }, 4, 16, 8000000000⟩
  | q => .error (.missingEntry q.entryPoint.symbol)

private theorem neighbourVendor_agree (first second : List DeviceHandle) (q : Query)
    (h : Concerns (neighbourVendor first) ⟨7⟩ q) :
    neighbourVendor first q = neighbourVendor second q := by
  have hne : q ≠ .subdevices ⟨6⟩ := by
    rintro rfl
    cases h with
    | whole h => cases h
    | part hmem h =>
      cases h
      cases List.mem_singleton.mp hmem
    | module hmem h => cases h
  unfold neighbourVendor
  split <;> first | rfl | exact absurd rfl hne

/-- The second device has other numbers when the first one has a subdevice, and is the same. -/
theorem neighbours_isolated :
    let vendor := neighbourVendor []
    let vendor' := neighbourVendor [⟨9⟩]
    let choice : MemoryChoice := ⟨.core, .unresolved⟩
    0 < hostWithCard.size ∧ (choice.source ≠ .unresolved ∨ choice.preference ≠ .auto) ∧
    vendor .init = .ok () ∧ vendor' .init = .ok () ∧
    vendor .drivers = .ok [⟨1⟩] ∧ vendor' .drivers = .ok [⟨1⟩] ∧
    (∀ driver ∈ [⟨1⟩],
      (vendor (.devices driver)).toOption = (vendor' (.devices driver)).toOption) ∧
    (∀ q, Concerns vendor ⟨7⟩ q → vendor q = vendor' q) ∧
    let pass : Pass := runPass vendor {} .enabled choice hostWithCard
    let pass' : Pass := runPass vendor' {} .enabled choice hostWithCard
    let devices := (pass.report {}).devices
    let devices' := (pass'.report {}).devices
    devices = [⟨⟨2⟩, []⟩, ⟨⟨3⟩, [⟨4⟩]⟩] ∧ devices' = [⟨⟨2⟩, [⟨3⟩]⟩, ⟨⟨4⟩, [⟨5⟩]⟩] ∧
    ∃ listed, Listed vendor [⟨1⟩] listed ∧ Listed vendor' [⟨1⟩] listed ∧
      (hostWithCard.retentions.get .osDevice ≠ .keepNone →
        devices.length = listed.length ∧ devices'.length = listed.length) ∧
      ∀ (n : Nat) s p p', listed[n]? = some s → devices[n]? = some p → devices'[n]? = some p' →
        (∀ q, Concerns vendor s.device q → vendor q = vendor' q) →
        (∃ d, pass.value.topology.ShowsDevice p d ∧ pass'.value.topology.ShowsDevice p' d) ∧
        ∃ home ∈ hostWithCard.ids, pass.value.topology.parent? p.object = some home ∧
          pass'.value.topology.parent? p'.object = some home := by
  have hroot : 0 < hostWithCard.size := by decide
  have hchoice : MemorySource.unresolved ≠ .unresolved ∨ MemoryPreference.core ≠ .auto :=
    Or.inr (by decide)
  refine ⟨hroot, hchoice, rfl, rfl, rfl, rfl, fun _ _ ↦ rfl, neighbourVendor_agree [] [⟨9⟩], rfl,
    rfl, ?_⟩
  exact devices_isolated {} .enabled hroot hchoice rfl rfl rfl rfl fun _ _ ↦ rfl

end AcceleratorTopology
