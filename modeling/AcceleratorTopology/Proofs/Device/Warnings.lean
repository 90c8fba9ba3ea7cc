import AcceleratorTopology.Proofs.Device.Agreement
import AcceleratorTopology.Proofs.Lists
import AcceleratorTopology.Proofs.Warnings

/-!
# The warnings about a device

Which warnings the description of a device raises, in which order, by the answers of the vendor
alone: about the types of the device and of its subdevices, about its identity, and about modules
that are on subdevices which it does not have.
-/

namespace AcceleratorTopology

open Vendor Settings

/-- The warning about a device whose type has no meaning. -/
def typeWarnings (vendor : Answers) (device : DeviceHandle) : List Warning :=
  match vendor (.properties device) with
  | .error _ => []
  | .ok p =>
    match p.deviceType with
    | .other raw =>
      [⟨.unexpectedDeviceType, s!"Level Zero: unexpected device type {raw.toNat}"⟩]
    | _ => []

/-- Whether a device says that it is a subdevice. -/
def saysPart (vendor : Answers) (device : DeviceHandle) : Bool :=
  match vendor (.properties device) with
  | .error _ => false
  | .ok p => p.isSubdevice

/-- The warning about a device whose identity cannot be had, although it does not say that it is a
subdevice. -/
def identityWarnings (vendor : Answers) (switch : SysmanState) (device : DeviceHandle) :
    List Warning :=
  if saysPart vendor device then []
  else
    match vendor (.identity device) with
    | .error fault => [⟨.sysmanUnavailable, identityMissing switch fault⟩]
    | .ok _ => []

/-- The warning about module number `m` of a device with `parts` subdevices, if it can be read and
is on a subdevice beyond these. -/
def moduleWarnings (vendor : Answers) (parts m : Nat) (handle : ModuleHandle) : List Warning :=
  match vendor (.moduleProperties handle) with
  | .error _ => []
  | .ok p =>
    if p.onSubdevice ∧ parts ≤ p.subdeviceId.toNat then
      let culprit := p.subdeviceId.toNat
      [⟨.subdeviceAttribution,
        s!"Level Zero: memory module #{m} on unexpected subdevice #{culprit}"⟩]
    else []

/-- The warnings about the modules of a device with `parts` subdevices, if these can be listed. -/
def attributionWarnings (vendor : Answers) (parts : Nat) (device : DeviceHandle) : List Warning :=
  (moduleHandles vendor device).zipIdx.flatMap fun numbered ↦
    moduleWarnings vendor parts numbered.2 numbered.1

/-- The source of memory sizes that serves a device: the settled one, otherwise the preferred one,
and by the automatic preference the modules if they can be listed. -/
def servingSource (vendor : Answers) (choice : MemoryChoice) (device : DeviceHandle) :
    MemorySource :=
  match choice.source, choice.preference with
  | .unresolved, .auto =>
    match vendor (.modules device) with
    | .ok _ => .sysman
    | .error _ => .core
  | .unresolved, .sysman => .sysman
  | .unresolved, .core | .unresolved, .coreWithDdr => .core
  | source, _ => source

/-- The warnings about a device that a source of memory sizes serves. -/
def deviceWarnings (vendor : Answers) (switch : SysmanState) (source : MemorySource)
    (device : DeviceHandle) : List Warning :=
  let parts := subdeviceHandles vendor device
  typeWarnings vendor device ++ identityWarnings vendor switch device ++
    parts.flatMap (typeWarnings vendor) ++
      if source = .sysman then attributionWarnings vendor parts.length device else []

section Profile

variable (vendor : Answers) (name : String) (device : DeviceHandle) (switch : SysmanState)

private theorem warns_coreProperties :
    Warns (coreProperties vendor name device) (typeWarnings vendor device) := by
  apply warns_bind_ask
  rw [typeWarnings]
  cases vendor (.properties device) with
  | error fault => exact warns_bind_silent (warns_takeNote _) (warns_pure _)
  | ok p =>
    dsimp only
    cases p.deviceType with
    | other raw => exact warns_bind (warns_raiseWarning rfl _) (warns_pure _)
    | _ => exact warns_pure _

private theorem warns_identityAttributes :
    Warns (identityAttributes vendor device switch)
      (match vendor (.identity device) with
        | .error fault => [⟨.sysmanUnavailable, identityMissing switch fault⟩]
        | .ok _ => []) := by
  apply warns_bind_ask
  cases vendor (.identity device) with
  | error fault => exact warns_bind (warns_raiseWarning rfl _) (warns_pure _)
  | ok strings => exact warns_pure _

/-- What is learnt of a device tells whether it says that it is a subdevice. -/
theorem any_isSubdevice_coreProperties :
    (coreProperties vendor name device).value.any (·.isSubdevice) = saysPart vendor device := by
  rw [coreProperties, Traced.value_bind, value_ask, saysPart]
  cases vendor (.properties device) with
  | error fault => rfl
  | ok p =>
    dsimp only
    cases p.deviceType <;> rfl

private theorem warns_deviceProfile_whole :
    Warns (deviceProfile vendor name device .whole switch)
      (typeWarnings vendor device ++ identityWarnings vendor switch device) := by
  apply warns_bind (warns_coreProperties vendor name device)
  rw [any_isSubdevice_coreProperties, identityWarnings]
  cases saysPart vendor device with
  | true => exact warns_pure _
  | false =>
    exact warns_bind_of_silent (warns_identityAttributes vendor device switch) (warns_pure _)

private theorem warns_deviceProfile_part :
    Warns (deviceProfile vendor name device .part switch) (typeWarnings vendor device) :=
  warns_bind_of_silent (warns_coreProperties vendor name device) (warns_pure _)

private theorem warns_queueAttributes : Warns (queueAttributes vendor name device) [] := by
  apply warns_bind_ask
  cases vendor (.queueGroups device) with
  | error fault => exact warns_bind_silent (warns_takeNote _) (warns_pure _)
  | ok groups => exact warns_pure _

private theorem warns_subdevicesOf : Warns (subdevicesOf vendor name device) [] := by
  apply warns_bind_ask
  cases vendor (.subdevices device) with
  | error fault => exact warns_bind_silent (warns_takeNote _) (warns_pure _)
  | ok handles => exact warns_pure _

private theorem warns_describePart (k : Nat) :
    Warns (describePart vendor switch name k device) (typeWarnings vendor device) := by
  apply warns_bind_of_silent (warns_deviceProfile_part vendor _ device switch)
  exact warns_bind_silent (warns_queueAttributes vendor _ device) (warns_pure _)

end Profile

/-- A survey warns of the device and then of the types of its subdevices. -/
theorem warns_surveyDevice (vendor : Answers) (config : Configuration) (switch : SysmanState)
    (listing : Listing) :
    Warns (surveyDevice vendor config switch listing)
      (typeWarnings vendor listing.device ++ identityWarnings vendor switch listing.device ++
        (subdeviceHandles vendor listing.device).flatMap (typeWarnings vendor)) := by
  apply warns_bind (warns_deviceProfile_whole vendor _ listing.device switch)
  apply warns_bind_silent (warns_queueAttributes vendor _ listing.device)
  apply warns_bind_silent (warns_subdevicesOf vendor _ listing.device)
  rw [value_subdevicesOf, ← flatMap_zipIdx_fst]
  refine warns_bind_of_silent (warns_collect ?_) (warns_pure _)
  exact fun numbered _ ↦ warns_describePart vendor _ numbered.1 switch numbered.2

section Memory

variable (vendor : Answers)

private theorem warns_memoryOf (ignoreDdr : Bool) (device : NamedDevice) :
    Warns (memoryOf vendor ignoreDdr device) [] := by
  apply warns_bind_ask
  cases vendor (.memories device.handle) with
  | error fault => exact warns_bind_silent (warns_takeNote _) (warns_pure _)
  | ok memories =>
    exact warns_bind_silent (warns_collect_silent fun _ _ ↦ warns_takeNote _) (warns_pure _)

private theorem warns_coreEntries (family : DeviceFamily) (choice : MemoryChoice) :
    Warns (coreEntries vendor family choice) [] := by
  refine warns_bind_silent ?_ (warns_pure _)
  apply warns_bind_silent (warns_memoryOf vendor _ family.whole)
  refine warns_bind_silent (warns_collect_silent ?_) (warns_pure _)
  exact fun part _ ↦ warns_memoryOf vendor _ part

private theorem warns_effectiveSize (m : Nat) (handle : ModuleHandle) (p : ModuleDescription) :
    Warns (effectiveSize vendor m handle p) [] := by
  unfold effectiveSize
  split
  · exact warns_pure _
  · apply warns_bind_ask
    cases vendor (.moduleState handle) with
    | error fault => exact warns_pure _
    | ok state => exact warns_bind_silent (warns_takeNote _) (warns_pure _)

private theorem warns_readModule (parts m : Nat) (handle : ModuleHandle) :
    Warns (readModule vendor parts m handle) (moduleWarnings vendor parts m handle) := by
  apply warns_bind_ask
  rw [moduleWarnings]
  cases vendor (.moduleProperties handle) with
  | error fault => exact warns_bind_silent (warns_takeNote _) (warns_pure _)
  | ok p =>
    apply warns_bind_silent (warns_effectiveSize vendor m handle p)
    apply warns_bind_silent (warns_takeNote _)
    dsimp only [isMisattributed]
    simp only [Bool.and_eq_true, decide_eq_true_eq]
    split
    · exact warns_bind (warns_raiseWarning rfl _) (warns_pure _)
    · exact warns_pure _

/-- The modules of a device are warned of one by one, if they can be listed. -/
theorem warns_memoryFromModules (family : DeviceFamily) :
    Warns (memoryFromModules vendor family)
      (attributionWarnings vendor family.parts.length family.whole.handle) := by
  apply warns_bind_ask
  rw [attributionWarnings, moduleHandles]
  cases vendor (.modules family.whole.handle) with
  | error fault => exact warns_pure _
  | ok handles =>
    refine warns_bind_of_silent (warns_collect ?_) (warns_pure _)
    exact fun numbered _ ↦ warns_readModule vendor family.parts.length numbered.2 numbered.1

private theorem warns_sysmanEntries (family : DeviceFamily) (choice : MemoryChoice) :
    Warns (sysmanEntries vendor family choice)
      (attributionWarnings vendor family.parts.length family.whole.handle) := by
  apply warns_bind_of_silent (warns_memoryFromModules vendor family)
  cases (memoryFromModules vendor family).value with
  | error fault => exact warns_bind_silent (warns_takeNote _) (warns_pure _)
  | ok entries => exact warns_pure _

private theorem warns_tryModules (family : DeviceFamily) (choice : MemoryChoice) :
    Warns (tryModules vendor family choice)
      (attributionWarnings vendor family.parts.length family.whole.handle) := by
  apply warns_bind_of_silent (warns_memoryFromModules vendor family)
  cases (memoryFromModules vendor family).value with
  | error fault => exact warns_bind_silent (warns_takeNote _) (warns_coreEntries vendor family _)
  | ok entries => exact warns_bind_silent (warns_takeNote _) (warns_pure _)

/-- A source that is settled on serves every device. -/
theorem servingSource_of_settled {choice : MemoryChoice} (h : choice.source ≠ .unresolved)
    (device : DeviceHandle) : servingSource vendor choice device = choice.source := by
  obtain ⟨preference, source⟩ := choice
  cases source with
  | unresolved => exact absurd rfl h
  | core => rfl
  | sysman => rfl

/-- The source that serves a call depends on the choice and on the list of modules. -/
theorem servedBy_eq (call : MemoryCall) (choice : MemoryChoice) :
    call.servedBy choice = servingSource call.vendor choice call.family.whole.handle := by
  obtain ⟨preference, source⟩ := choice
  cases source with
  | core => rfl
  | sysman => rfl
  | unresolved =>
    cases preference with
    | auto =>
      simp only [MemoryCall.servedBy, MemoryCall.settles, servingSource, if_true]
      cases call.vendor (.modules call.family.whole.handle) <;> rfl
    | _ => rfl

/-- The memory sizes of a device give warnings about its modules if these serve it. -/
theorem warns_memorySizes (family : DeviceFamily) (choice : MemoryChoice) :
    Warns (memorySizes vendor family choice)
      (if servingSource vendor choice family.whole.handle = .sysman then
        attributionWarnings vendor family.parts.length family.whole.handle else []) := by
  obtain ⟨preference, source⟩ := choice
  cases source with
  | core => exact warns_coreEntries vendor family _
  | sysman => exact warns_sysmanEntries vendor family _
  | unresolved =>
    cases preference with
    | sysman => exact warns_sysmanEntries vendor family _
    | core => exact warns_coreEntries vendor family _
    | coreWithDdr => exact warns_coreEntries vendor family _
    | auto =>
      have htry := warns_tryModules vendor family ⟨.auto, .unresolved⟩
      rw [attributionWarnings, moduleHandles] at htry ⊢
      unfold servingSource
      cases hm : vendor (.modules family.whole.handle) with
      | ok handles =>
        rw [hm] at htry
        exact htry
      | error fault =>
        rw [hm] at htry
        exact htry

end Memory

/-- A family has as many parts as the vendor lists subdevices. -/
theorem length_family_parts (vendor : Answers) (config : Configuration) (switch : SysmanState)
    (listing : Listing) :
    (surveyDevice vendor config switch listing).value.family.parts.length =
      (subdeviceHandles vendor listing.device).length := by
  rw [← map_handle_surveyDevice vendor config switch listing, List.length_map]

/-- A description gives the warnings about the device. -/
theorem warns_describe (vendor : Answers) (config : Configuration) (switch : SysmanState)
    (choice : MemoryChoice) (listing : Listing) :
    Warns (describe vendor config switch choice listing)
      (deviceWarnings vendor switch (servingSource vendor choice listing.device)
        listing.device) := by
  apply warns_bind (warns_surveyDevice vendor config switch listing)
  rw [← length_family_parts vendor config switch listing]
  exact warns_bind_of_silent (warns_memorySizes vendor _ choice) (warns_pure _)

end AcceleratorTopology
