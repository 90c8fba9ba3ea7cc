import AcceleratorTopology.Proofs.Device.Warnings
import AcceleratorTopology.Proofs.Discovery.Visits

/-!
# The warnings of a pass

A pass collects the warnings about all devices in one record, in which some kinds are recorded once
only. What is recorded at the end is known from the answers of the vendor: the warnings about one
device after another, without those that repeat an earlier one.
-/

namespace AcceleratorTopology

open Vendor Settings

/-- The source of memory sizes that serves some devices, one after another: the one that serves the
first of them. -/
def sharedSource (vendor : Answers) (choice : MemoryChoice) : List DeviceHandle → MemorySource
  | [] => choice.source
  | first :: _ => servingSource vendor choice first

/-- The warnings about some devices that share a choice of source. -/
def devicesWarnings (vendor : Answers) (switch : SysmanState) (choice : MemoryChoice)
    (devices : List DeviceHandle) : List Warning :=
  devices.flatMap (deviceWarnings vendor switch (sharedSource vendor choice devices))

/-- All devices of all drivers, in the order of the lists. -/
def listedDevices (vendor : Answers) : List DeviceHandle :=
  (listed (vendor .drivers)).flatMap fun driver ↦ listed (vendor (.devices driver))

section Visit

variable (vendor : Answers) (config : Configuration) (switch : SysmanState)

private theorem warns_placeDevice (t : Topology) (device : DeviceHandle) (d : Description) :
    Warns (placeDevice vendor t device d) [] := by
  refine warns_bind_silent ?_ (warns_pure _)
  apply warns_bind_ask
  cases vendor (.location device) with
  | error fault => exact warns_bind_silent (warns_takeNote _) (warns_pure _)
  | ok pci =>
    dsimp only
    split
    · exact warns_bind_silent (warns_takeNote _) (warns_pure _)
    · split
      · exact warns_pure _
      · exact warns_pure _

private theorem warns_visit_device (p : Progress) (s : Site) :
    Warns (visit vendor config switch p (.device s))
      (deviceWarnings vendor switch (servingSource vendor p.choice s.device) s.device) := by
  rw [visit_device]
  apply warns_bind_of_silent (warns_describe vendor config switch p.choice _)
  exact warns_map _ (warns_placeDevice vendor p.topology s.device _)

private theorem warns_visit_driver (p : Progress) (number : Nat) (handle : DriverHandle) :
    Warns (visit vendor config switch p (.driver number handle)) [] := by
  apply warns_bind_ask
  cases vendor (.devices handle) with
  | error fault => exact warns_bind_silent (warns_takeNote _) (warns_pure _)
  | ok devices => exact warns_pure _

private theorem sharedSource_visit_device (p : Progress) (s : Site) (later : List DeviceHandle) :
    sharedSource vendor (visit vendor config switch p (.device s)).value.choice later =
      servingSource vendor p.choice s.device := by
  let call : MemoryCall := ⟨vendor, (surveyDevice vendor config switch
    ⟨p.placements.length, s.driver, s.position, s.device⟩).value.family⟩
  have hserved : call.servedBy p.choice = servingSource vendor p.choice s.device :=
    servedBy_eq call p.choice
  have hchoice : (visit vendor config switch p (.device s)).value.choice =
      { p.choice with source := call.servedBy p.choice } := by
    rw [value_visit_device]
    exact (memorySizes_spec call p.choice).1
  rw [hchoice, ← hserved]
  cases later with
  | nil => rfl
  | cons device later =>
    exact servingSource_of_settled vendor (call.servedBy_ne_unresolved p.choice) device

private theorem warns_foldlM_visit (vs : List Visit) (p : Progress) :
    Warns (vs.foldlM (visit vendor config switch) p)
      (devicesWarnings vendor switch p.choice ((vs.filterMap Visit.site?).map Site.device)) := by
  -- The choice may be settled by the first visit, and then says for all later ones what it said for
  -- that one: hence the progress is any.
  induction vs generalizing p with
  | nil => exact warns_pure p
  | cons v vs ih =>
    rw [List.foldlM_cons]
    cases v with
    | driver number handle =>
      apply warns_bind_silent (warns_visit_driver vendor config switch p number handle)
      have hrest := ih p
      rw [value_visit_driver]
      exact hrest
    | device s =>
      have hrest := ih (visit vendor config switch p (.device s)).value
      rw [devicesWarnings, sharedSource_visit_device] at hrest
      exact warns_bind (warns_visit_device vendor config switch p s) hrest

end Visit

private theorem map_device_sites (vendor : Answers) (drivers : List DriverHandle) :
    (drivers.zipIdx.flatMap (sitesOf vendor)).map Site.device =
      drivers.flatMap fun driver ↦ listed (vendor (.devices driver)) := by
  rw [List.map_flatMap, ← flatMap_zipIdx_fst fun driver ↦ listed (vendor (.devices driver))]
  apply List.flatMap_congr
  intro numbered _
  have hfst : Site.device ∘ (fun device : DeviceHandle × Nat ↦
      (⟨numbered.2, device.2, device.1⟩ : Site)) = Prod.fst := rfl
  rw [sitesOf_eq_listed, List.map_map, hfst, List.zipIdx_map_fst]

/-- The warnings of a pass before any are dropped: that the interface does not start, and else
those about the devices. -/
def passWarnings (vendor : Answers) (switch : SysmanState) (choice : MemoryChoice) : List Warning :=
  match vendor .init with
  | .error fault =>
    [⟨.runtimeInit, s!"Failed to initialize Level Zero in zeInit(): {fault.message}"⟩]
  | .ok _ => devicesWarnings vendor switch choice (listedDevices vendor)

/-- A pass gives these warnings, unless the topology keeps no devices. -/
theorem warns_runPass (vendor : Answers) (config : Configuration) (switch : SysmanState)
    (choice : MemoryChoice) {t : Topology} (hkeep : t.retentions.get .osDevice ≠ .keepNone) :
    Warns (runPass vendor config switch choice t) (passWarnings vendor switch choice) := by
  rw [runPass, if_neg hkeep, passWarnings]
  apply warns_bind_ask
  cases vendor .init with
  | error fault => exact warns_bind (warns_raiseWarning rfl _) (warns_pure _)
  | ok _ =>
    apply warns_bind_ask
    rw [listedDevices]
    cases vendor .drivers with
    | error fault => exact warns_bind_silent (warns_takeNote _) (warns_pure _)
    | ok drivers =>
      have hvisits := warns_foldlM_visit vendor config switch (visits vendor drivers)
        { topology := t, choice }
      rw [filterMap_visits, map_device_sites] at hvisits
      dsimp only
      rw [foldlM_discoverDriver]
      exact hvisits

/-- A pass records exactly the warnings that the vendor gives cause for. If the interface does not
start that is the one warning. Otherwise the warnings about one device after another are recorded
in order: about its type, its identity, the types of its subdevices and, if its modules serve it,
about each module on a subdevice that it does not have. Of those about types and about identities
only the first is recorded in the whole pass, of those about modules every one. -/
theorem reported_warnings_exact (vendor : Answers) (config : Configuration) (switch : SysmanState)
    (choice : MemoryChoice) {t : Topology} (hkeep : t.retentions.get .osDevice ≠ .keepNone) :
    let pass : Pass := runPass vendor config switch choice t
    let recorded := (pass.report config).warnings
    match vendor .init with
    | .error fault =>
      recorded = [⟨.runtimeInit, s!"Failed to initialize Level Zero in zeInit(): {fault.message}"⟩]
    | .ok _ =>
      let raised := devicesWarnings vendor switch choice (listedDevices vendor)
      recorded = withoutRepeats raised ∧
      ∀ kind, recorded.filter (·.kind == kind) =
        if kind.isOnce then (raised.filter (·.kind == kind)).take 1
        else raised.filter (·.kind == kind) := by
  intro pass recorded
  have hrecorded : recorded = withoutRepeats (passWarnings vendor switch choice) :=
    (warns_runPass vendor config switch choice hkeep).recorded_observe config.hideErrors
  rw [passWarnings] at hrecorded
  cases hinit : vendor .init with
  | error fault =>
    rw [hinit] at hrecorded
    exact hrecorded
  | ok _ =>
    rw [hinit] at hrecorded
    dsimp only at hrecorded ⊢
    rw [hrecorded]
    exact ⟨rfl, fun kind ↦ filter_kind_withoutRepeats kind _⟩

/-- A vendor with two devices of unknown types, without identities. Each has a subdevice, again of
an unknown type, and two modules on subdevices beyond that. -/
def oddVendor : Answers
  | .init => .ok ()
  | .drivers => .ok [⟨1⟩]
  | .devices _ => .ok [⟨6⟩, ⟨7⟩]
  | .subdevices _ => .ok [⟨8⟩]
  | .properties device => .ok ⟨.other (.ofNat device.raw), 0, 0, 0, 0, 0, 0, 0, 0, ""⟩
  | .modules _ => .ok [⟨2⟩, ⟨3⟩]
  | .moduleProperties handle => .ok ⟨0, true, .ofNat handle.raw, 0, 1024, 0, 0⟩
  | q => .error (.missingEntry q.entryPoint.symbol)

/-- Of the warnings about types and identities one each is recorded, of those about modules all. -/
theorem odd_warnings_exact :
    Topology.bare.retentions.get .osDevice ≠ .keepNone ∧
    let choice : MemoryChoice := ⟨.auto, .unresolved⟩
    let pass : Pass := runPass oddVendor {} .enabled choice Topology.bare
    let recorded := (pass.report {}).warnings
    let raised := devicesWarnings oddVendor .enabled choice (listedDevices oddVendor)
    raised.map (·.kind) = [.unexpectedDeviceType, .sysmanUnavailable, .unexpectedDeviceType,
      .subdeviceAttribution, .subdeviceAttribution, .unexpectedDeviceType, .sysmanUnavailable,
      .unexpectedDeviceType, .subdeviceAttribution, .subdeviceAttribution] ∧
    recorded.map (·.kind) = [.unexpectedDeviceType, .sysmanUnavailable, .subdeviceAttribution,
      .subdeviceAttribution, .subdeviceAttribution, .subdeviceAttribution] ∧
    recorded.head? = some ⟨.unexpectedDeviceType, "Level Zero: unexpected device type 6"⟩ ∧
    recorded = withoutRepeats raised ∧
    ∀ kind, recorded.filter (·.kind == kind) =
      if kind.isOnce then (raised.filter (·.kind == kind)).take 1
      else raised.filter (·.kind == kind) := by
  have hkeep : Topology.bare.retentions.get .osDevice ≠ .keepNone := by decide
  refine ⟨hkeep, rfl, rfl, rfl, ?_⟩
  exact reported_warnings_exact oddVendor {} .enabled ⟨.auto, .unresolved⟩ hkeep

/-- A vendor of some devices without identities, which have their numbers for flags. -/
def unidentifiedVendor (devices : List DeviceHandle) : Answers
  | .init => .ok ()
  | .drivers => .ok [⟨1⟩]
  | .devices _ => .ok devices
  | .properties device => .ok ⟨.gpu, 0, 0, .ofNat device.raw, 0, 0, 0, 0, 0, ""⟩
  | q => .error (.missingEntry q.entryPoint.symbol)

/-- That an identity is missing is no cause for a warning about devices with the second flag. -/
example :
    let warnings (devices : List DeviceHandle) : List WarningKind :=
      let pass : Pass :=
        runPass (unidentifiedVendor devices) {} .enabled ⟨.core, .unresolved⟩ Topology.bare
      (pass.report {}).warnings.map (·.kind)
    warnings [⟨1⟩] = [.sysmanUnavailable] ∧ warnings [⟨2⟩, ⟨3⟩] = [] := by decide

end AcceleratorTopology
