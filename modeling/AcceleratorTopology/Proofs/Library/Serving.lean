import AcceleratorTopology.Library.Answers
import AcceleratorTopology.Proofs.Discovery.Preference
import AcceleratorTopology.Proofs.Library.Holding
import Mathlib.Data.List.Forall2

/-!
# Libraries that serve content

What a vendor knows is its content: for each query the data, or the code with which it fails. A
library serves some content if each of its entry points hands that out, record by record and slot by
slot. Then a pass over the library comes to the same as one over a vendor that answers with the
content directly: neither the two phases of a list nor the records and their text fields lose or
change anything, and each failure is reported with the name of the function that was called.
-/

namespace AcceleratorTopology

open Vendor Settings Text

namespace Library

/-- What is known about each query: the data, or the code of a failure. -/
abbrev Content := (q : Query) → Except ResultCode q.Answer

/-- A call that returns a code and leaves something behind tells the data that this holds, or the
code of a failure. -/
inductive Tells {α β : Type} (Holds : α → β → Prop) : ResultCode × α → Except ResultCode β → Prop
  | data {a : α} {b : β} (h : Holds a b) : Tells Holds (.success, a) (.ok b)
  | failure {code : ResultCode} (h : code ≠ .success) (a : α) :
    Tells Holds (code, a) (.error code)

/-- A list entry point serves a list, or the code of a failure. It tells how many elements there are
and then fills as many prepared slots with them; it may fail either time. -/
inductive ServesList {α β : Type} (prepared : α) (Holds : α → β → Prop) (call : ListEntry α) :
    Except ResultCode (List β) → Prop
  | listed {items : List β} (hsized : (call sizing).code = .success)
    (hlength : (call sizing).count.toNat = items.length)
    (hfilled : items ≠ [] →
      let request := filling (call sizing).count prepared
      (call request).code = .success ∧ (call request).count = (call sizing).count ∧
        List.Forall₂ Holds ((call request).slots (List.replicate items.length prepared)) items) :
    ServesList prepared Holds call (.ok items)
  | notSized (hsized : (call sizing).code ≠ .success) :
    ServesList prepared Holds call (.error (call sizing).code)
  | notFilled (hsized : (call sizing).code = .success) (hcount : (call sizing).count ≠ 0)
    (hfilled : (call (filling (call sizing).count prepared)).code ≠ .success) :
    ServesList prepared Holds call (.error (call (filling (call sizing).count prepared)).code)

/-- A library serves some content. Handles are handed out as they are. Records are handed over
zeroed, with the number of their structure type, and come back holding the data. -/
structure Serves (lib : Library) (content : Content) : Prop where
  init : Tells (fun _ _ ↦ True) (lib.init 0, ()) (content .init)
  driverGet : ServesList ⟨0⟩ Eq lib.driverGet (content .drivers)
  deviceGet : ∀ driver, ServesList ⟨0⟩ Eq (lib.deviceGet driver) (content (.devices driver))
  deviceGetSubDevices : ∀ device,
    ServesList ⟨0⟩ Eq (lib.deviceGetSubDevices device) (content (.subdevices device))
  deviceGetProperties : ∀ device, Tells DeviceRecord.Holds
    (lib.deviceGetProperties device { structureType := 0x3 }) (content (.properties device))
  deviceGetQueueGroups : ∀ device, ServesList { structureType := 0x6 } QueueGroupRecord.Holds
    (lib.deviceGetQueueGroups device) (content (.queueGroups device))
  deviceGetMemories : ∀ device, ServesList { structureType := 0x7 } MemoryRecord.Holds
    (lib.deviceGetMemories device) (content (.memories device))
  sysmanDeviceGetProperties : ∀ call, lib.sysmanDeviceGetProperties = some call → ∀ device,
    Tells IdentityRecord.Holds
      (call device { structureType := 0x1, core := { structureType := 0x3 } })
      (content (.identity device))
  sysmanEnumModules : ∀ call, lib.sysmanEnumModules = some call → ∀ device,
    ServesList ⟨0⟩ Eq (call device) (content (.modules device))
  sysmanMemoryGetProperties : ∀ call, lib.sysmanMemoryGetProperties = some call → ∀ memory,
    Tells ModuleRecord.Holds (call memory { structureType := 0xB })
      (content (.moduleProperties memory))
  sysmanMemoryGetState : ∀ call, lib.sysmanMemoryGetState = some call → ∀ memory,
    Tells ModuleStateRecord.Holds (call memory { structureType := 0x1E })
      (content (.moduleState memory))
  sysmanPciGetProperties : ∀ call, lib.sysmanPciGetProperties = some call → ∀ device,
    Tells PciRecord.Holds (call device { structureType := 0x2 }) (content (.location device))

/-- What a library exports that has all required entry points. -/
def exports (lib : Library) : Exports where
  init := some lib.init
  driverGet := some lib.driverGet
  deviceGet := some lib.deviceGet
  deviceGetSubDevices := some lib.deviceGetSubDevices
  deviceGetProperties := some lib.deviceGetProperties
  deviceGetQueueGroups := some lib.deviceGetQueueGroups
  deviceGetMemories := some lib.deviceGetMemories
  sysmanDeviceGetProperties := lib.sysmanDeviceGetProperties
  sysmanEnumModules := lib.sysmanEnumModules
  sysmanMemoryGetProperties := lib.sysmanMemoryGetProperties
  sysmanMemoryGetState := lib.sysmanMemoryGetState
  sysmanPciGetProperties := lib.sysmanPciGetProperties

/-- Whether a library has an entry point: the required ones, and any of the others. -/
def has (lib : Library) : EntryPoint → Bool
  | .init | .driverGet | .deviceGet | .deviceGetSubDevices | .deviceGetProperties
  | .deviceGetQueueGroups | .deviceGetMemories => true
  | .sysmanDeviceGetProperties => lib.sysmanDeviceGetProperties.isSome
  | .sysmanEnumModules => lib.sysmanEnumModules.isSome
  | .sysmanMemoryGetProperties => lib.sysmanMemoryGetProperties.isSome
  | .sysmanMemoryGetState => lib.sysmanMemoryGetState.isSome
  | .sysmanPciGetProperties => lib.sysmanPciGetProperties.isSome

/-- The vendor that answers with some content directly, where it has the entry point for it. -/
def Content.vendor (content : Content) (present : EntryPoint → Bool) : Answers := fun q ↦
  if present q.entryPoint then (content q).mapError (.call q.entryPoint.symbol)
  else .error (.missingEntry q.entryPoint.symbol)

/-- A library opens exactly if it has all required entry points, and all of them are used. -/
theorem ofExports_eq_ok_iff {exported : Exports} {lib : Library} :
    ofExports exported = .ok lib ↔ exported = lib.exports := by
  constructor
  · intro h
    obtain ⟨_ | init, _ | driverGet, _ | deviceGet, _ | subdevices, _ | properties, _ | queueGroups,
      _ | memories, _, _, _, _, _⟩ := exported <;> cases h
    rfl
  · rintro rfl
    rfl

section Fetch

variable {α β : Type}

private theorem map_eq_of_forall₂ {Holds : α → β → Prop} {read : α → β}
    (hread : ∀ a b, Holds a b → read a = b) {slots : List α} {items : List β}
    (h : List.Forall₂ Holds slots items) : slots.map read = items := by
  induction h with
  | nil => rfl
  | cons hhead _ ih => rw [List.map_cons, hread _ _ hhead, ih]

/-- The two phases fetch the list that is served. -/
theorem value_fetchList {prepared : α} {Holds : α → β → Prop} {call : ListEntry α}
    {content : Except ResultCode (List β)} (h : ServesList prepared Holds call content)
    {read : α → β} (hread : ∀ a b, Holds a b → read a = b) (entry : String) :
    (fetchList entry prepared call).value.map (List.map read) =
      content.mapError (.call entry) := by
  cases h with
  | @listed items hsized hlength hfilled =>
    by_cases hnone : items = []
    · have hzero : (call sizing).count = 0 := by
        rw [hnone] at hlength
        exact UInt32.toNat_inj.mp hlength
      rw [fetchList_of_empty hsized hzero, hnone]
      rfl
    · obtain ⟨hcode, hcount, hslots⟩ := hfilled hnone
      have hne : (call sizing).count ≠ 0 := by
        intro hzero
        rw [hzero] at hlength
        exact hnone (List.eq_nil_of_length_eq_zero hlength.symm)
      rw [fetchList_of_filled hsized hne hcode, hcount, hlength,
        List.take_of_length_le (Nat.le_of_eq hslots.length_eq)]
      exact congrArg Except.ok (map_eq_of_forall₂ hread hslots)
  | notSized hsized =>
    rw [fetchList_of_notSized hsized]
    rfl
  | notFilled hsized hcount hfilled =>
    rw [fetchList_of_notFilled hsized hcount hfilled]
    rfl

private theorem value_record {prepared : α} {Holds : α → β → Prop} {call : RecordEntry α}
    {content : Except ResultCode β} (h : Tells Holds (call prepared) content)
    {read : α → β} (hread : ∀ a b, Holds a b → read a = b) (entry : EntryPoint) (handle : Nat)
    (structureType : UInt32) (core? : Option UInt32) :
    (record entry handle prepared structureType core? call).value.map read =
      content.mapError (.call entry.symbol) := by
  have hvalue : (record entry handle prepared structureType core? call).value =
      (checked entry.symbol (call prepared).1).map fun _ ↦ (call prepared).2 := rfl
  rw [hvalue]
  generalize call prepared = answer at h
  cases h with
  | data h => exact congrArg Except.ok (hread _ _ h)
  | failure h a =>
    rw [checked_of_ne h]
    rfl

end Fetch

section Answers

variable {lib : Library} {content : Content}

private theorem value_handles {α : Type} {null : α} {call : ListEntry α}
    {served : Except ResultCode (List α)} (h : ServesList null Eq call served) (entry : EntryPoint)
    (handle? : Option Nat) :
    (handles entry handle? null call).value = served.mapError (.call entry.symbol) := by
  have hvalue : (handles entry handle? null call).value =
      (fetchList entry.symbol null call).value.map (List.map id) := by
    rw [List.map_id_fun, Except.map_id]
    rfl
  rw [hvalue]
  exact value_fetchList h (fun _ _ ↦ id) entry.symbol

private theorem value_ifPresent {f α : Type} {exported : Option f}
    {ask : f → Traced EntryCall (Except Fault α)} {answer : Except Fault α}
    (h : ∀ call, exported = some call → (ask call).value = answer) (entry : EntryPoint) :
    (ifPresent entry exported ask).value =
      if exported.isSome then answer else .error (.missingEntry entry.symbol) := by
  cases exported with
  | none => rfl
  | some call => exact h call rfl

/-- A library that serves some content answers like the vendor that has the content. -/
theorem Serves.answers_eq (h : lib.Serves content) : lib.answers = content.vendor lib.has := by
  funext q
  cases q with
  | init =>
    have hanswer : lib.answers .init = checked EntryPoint.init.symbol (lib.init 0) := rfl
    have hvendor : content.vendor lib.has .init =
        (content .init).mapError (.call EntryPoint.init.symbol) := rfl
    rw [hanswer, hvendor]
    have htells := h.init
    generalize lib.init 0 = code at htells ⊢
    generalize content .init = started at htells ⊢
    cases htells with
    | data _ => rfl
    | failure hcode _ => exact checked_of_ne hcode _
  | drivers => exact value_handles h.driverGet _ _
  | devices driver => exact value_handles (h.deviceGet driver) _ _
  | subdevices device => exact value_handles (h.deviceGetSubDevices device) _ _
  | properties device =>
    exact value_record (h.deviceGetProperties device)
      (fun _ _ ↦ DeviceRecord.Holds.properties_eq) _ _ _ _
  | queueGroups device =>
    exact value_fetchList (h.deviceGetQueueGroups device)
      (fun _ _ ↦ QueueGroupRecord.Holds.group_eq) _
  | memories device =>
    exact value_fetchList (h.deviceGetMemories device)
      (fun _ _ ↦ MemoryRecord.Holds.properties_eq) _
  | identity device =>
    refine value_ifPresent (fun call hcall ↦ ?_) _
    exact value_record (h.sysmanDeviceGetProperties call hcall device)
      (fun _ _ ↦ IdentityRecord.Holds.strings_eq) _ _ _ _
  | modules device =>
    refine value_ifPresent (fun call hcall ↦ ?_) _
    exact value_handles (h.sysmanEnumModules call hcall device) _ _
  | moduleProperties memory =>
    refine value_ifPresent (fun call hcall ↦ ?_) _
    exact value_record (h.sysmanMemoryGetProperties call hcall memory)
      (fun _ _ ↦ ModuleRecord.Holds.properties_eq) _ _ _ _
  | moduleState memory =>
    refine value_ifPresent (fun call hcall ↦ ?_) _
    exact value_record (h.sysmanMemoryGetState call hcall memory)
      (fun _ _ ↦ ModuleStateRecord.Holds.state_eq) _ _ _ _
  | location device =>
    refine value_ifPresent (fun call hcall ↦ ?_) _
    exact value_record (h.sysmanPciGetProperties call hcall device)
      (fun _ _ ↦ PciRecord.Holds.properties_eq) _ _ _ _

end Answers

/-- A library refines the content that it serves. If it has the entry points that are required, and
whichever of the others, it loads; and whatever the configuration, the choice of source and the
topology, a pass over it ends with the same topology, the same devices and warnings, and the same
choice as a pass over the vendor that answers with the content directly, with the same failures by
the same names. -/
theorem loaded_library_refines_content {lib : Library} {content : Content} (h : lib.Serves content)
    {find : String → Except String Exports} {path : String} (hfind : find path = .ok lib.exports) :
    load find path = .ok lib ∧
    ∀ config switch choice t,
      let pass : Pass := runPass lib.answers config switch choice t
      let pass' : Pass := runPass (content.vendor lib.has) config switch choice t
      pass.outcome config = pass'.outcome config ∧ pass.value.choice = pass'.value.choice ∧
        pass.log config = pass'.log config := by
  constructor
  · rw [load, hfind]
    exact ofExports_eq_ok_iff.mpr rfl
  · intro config switch choice t
    rw [h.answers_eq]
    exact ⟨rfl, rfl, rfl⟩

/-- A list entry point that hands out some elements, as many as there is room for. -/
def handOut {α : Type} (items : List α) : ListEntry α := fun _ ↦
  ⟨.success, .ofNat items.length, fun i ↦ items[i]?⟩

/-- A serial number that fills its field. -/
def longSerial : String := .ofList (List.replicate identitySize 'A')

/-- What is known of a device that has no subdevices, and of which modules and location cannot be
had. -/
def cardContent : Content
  | .init => .ok ()
  | .drivers => .ok [⟨1⟩]
  | .devices _ => .ok [⟨7⟩]
  | .properties _ => .ok ⟨.gpu, 0x8086, 0x0BD5, 0, 0, 8, 16, 4, 2, "Größe"⟩
  | .queueGroups _ => .ok [⟨1, 16, 4⟩, ⟨2, 16, 1⟩]
  | .memories _ => .ok [⟨0, 0, 64, 0x40000000, "HBM"⟩]
  | .identity _ => .ok ⟨0, longSerial, "unknown", "", "", "", ""⟩
  | _ => .error ⟨0x78000003⟩

/-- A library that serves this, and lacks four entry points. -/
def cardLibrary : Library where
  init _ := .success
  driverGet := handOut [⟨1⟩]
  deviceGet _ := handOut [⟨7⟩]
  deviceGetSubDevices _ _ := ⟨⟨0x78000003⟩, 0, fun _ ↦ none⟩
  deviceGetProperties _ r := (.success, { r with
    type := 1, vendorId := 0x8086, deviceId := 0x0BD5, threadsPerEu := 8, eusPerSubslice := 16
    subslicesPerSlice := 4, slices := 2, name := Field.store nameSize (Utf8.encode "Größe") })
  deviceGetQueueGroups _ := handOut [
    { flags := 1, maxFillPatternSize := 16, queueCount := 4 },
    { flags := 2, maxFillPatternSize := 16, queueCount := 1 }]
  deviceGetMemories _ := handOut [{
    maxBusWidth := 64, totalSize := 0x40000000, name := Field.store nameSize (Utf8.encode "HBM") }]
  sysmanDeviceGetProperties := some fun _ r ↦ (.success, { r with
    serialNumber := Field.store identitySize (Utf8.encode longSerial)
    boardNumber := Field.store identitySize (Utf8.encode "unknown") })
  sysmanEnumModules := none
  sysmanMemoryGetProperties := none
  sysmanMemoryGetState := none
  sysmanPciGetProperties := none

private theorem cardLibrary_serves : cardLibrary.Serves cardContent where
  init := .data trivial
  driverGet := .listed rfl rfl fun _ ↦ ⟨rfl, rfl, .cons rfl .nil⟩
  deviceGet _ := .listed rfl rfl fun _ ↦ ⟨rfl, rfl, .cons rfl .nil⟩
  deviceGetSubDevices _ := .notSized (show (⟨0x78000003⟩ : ResultCode) ≠ .success by decide)
  deviceGetProperties _ := .data
    ⟨.gpu, rfl, rfl, rfl, rfl, rfl, rfl, rfl, rfl, Field.holds_store (by decide) (by decide)⟩
  deviceGetQueueGroups _ := .listed rfl rfl fun _ ↦
    ⟨rfl, rfl, .cons ⟨rfl, rfl, rfl⟩ (.cons ⟨rfl, rfl, rfl⟩ .nil)⟩
  deviceGetMemories _ := .listed rfl rfl fun _ ↦
    ⟨rfl, rfl, .cons ⟨rfl, rfl, rfl, rfl, Field.holds_store (by decide) (by decide)⟩ .nil⟩
  sysmanDeviceGetProperties := by
    rintro _ ⟨⟩ _
    have hempty : Field.Holds identitySize (List.replicate identitySize 0) "" :=
      ⟨by decide, by decide, by decide⟩
    exact .data ⟨rfl, Field.holds_store (by decide) (by decide),
      Field.holds_store (by decide) (by decide), hempty, hempty, hempty, hempty⟩
  sysmanEnumModules := nofun
  sysmanMemoryGetProperties := nofun
  sysmanMemoryGetState := nofun
  sysmanPciGetProperties := nofun

/-- A pass over the library comes to what is known of the device. -/
theorem cardLibrary_refines_content :
    let find : String → Except String Exports := fun _ ↦ .ok cardLibrary.exports
    cardLibrary.Serves cardContent ∧ find defaultPath = .ok cardLibrary.exports ∧
    load find defaultPath = .ok cardLibrary ∧
    ∀ config switch choice t,
      let pass : Pass := runPass cardLibrary.answers config switch choice t
      let pass' : Pass := runPass (cardContent.vendor cardLibrary.has) config switch choice t
      pass.outcome config = pass'.outcome config ∧ pass.value.choice = pass'.value.choice ∧
        pass.log config = pass'.log config :=
  ⟨cardLibrary_serves, rfl, loaded_library_refines_content cardLibrary_serves rfl⟩

end Library

end AcceleratorTopology
