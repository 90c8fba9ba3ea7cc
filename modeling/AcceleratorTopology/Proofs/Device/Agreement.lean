import AcceleratorTopology.Proofs.Device.Contents
import AcceleratorTopology.Proofs.Device.MemoryCalls
import AcceleratorTopology.Proofs.Events

/-!
# What a description depends on

The description of a device depends on what the vendor tells about the device itself, about its
subdevices and about its modules, and on nothing else. A list that cannot be had is as good as an
empty one: that a query for it failed is noted, and leaves no other trace.
-/

namespace AcceleratorTopology

open Vendor Settings

namespace Vendor

/-- The empty list, for a query that asks for a list. -/
def Query.empty? : (q : Query) → Option q.Answer
  | drivers => some []
  | devices _ => some []
  | subdevices _ => some []
  | queueGroups _ => some []
  | memories _ => some []
  | modules _ => some []
  | init | properties _ | identity _ | moduleProperties _ | moduleState _ | location _ => none

/-- An answer, with an empty list in place of a failure to list. -/
def Query.orEmpty (q : Query) (answer : Except Fault q.Answer) : Except Fault q.Answer :=
  q.empty?.elim answer fun empty ↦ .ok (answer.toOption.getD empty)

/-- The device that a query is about. -/
def Query.device? : Query → Option DeviceHandle
  | subdevices device | properties device | queueGroups device | memories device
  | identity device | modules device | location device => some device
  | _ => none

/-- The module that a query is about. -/
def Query.module? : Query → Option ModuleHandle
  | moduleProperties handle | moduleState handle => some handle
  | _ => none

/-- Two vendors give the same answer to a query, if a failure to list counts as an empty list. -/
def Concur (vendor vendor' : Answers) (q : Query) : Prop :=
  q.orEmpty (vendor q) = q.orEmpty (vendor' q)

/-- Vendors that give the same answer concur. -/
theorem Concur.of_eq {vendor vendor' : Answers} {q : Query} (h : vendor q = vendor' q) :
    Concur vendor vendor' q := congrArg q.orEmpty h

/-- The elements of a list, none if it cannot be had. -/
def listed {α : Type} (answer : Except Fault (List α)) : List α := answer.toOption.getD []

end Vendor

/-- The subdevices that a vendor lists, as the elements of a list that may not be had. -/
theorem subdeviceHandles_eq_listed (vendor : Answers) (device : DeviceHandle) :
    subdeviceHandles vendor device = listed (vendor (.subdevices device)) := by
  rw [subdeviceHandles, listed]
  cases vendor (.subdevices device) <;> rfl

/-- The modules that a vendor lists, none if it does not. -/
def moduleHandles (vendor : Answers) (device : DeviceHandle) : List ModuleHandle :=
  listed (vendor (.modules device))

/-- Modules that can be listed are those that the vendor lists. -/
theorem moduleHandles_of_ok {vendor : Answers} {device : DeviceHandle}
    {handles : List ModuleHandle} (h : vendor (.modules device) = .ok handles) :
    moduleHandles vendor device = handles := by
  rw [moduleHandles, h]
  rfl

/-- Modules that cannot be listed are none. -/
theorem moduleHandles_of_error {vendor : Answers} {device : DeviceHandle} {fault : Fault}
    (h : vendor (.modules device) = .error fault) : moduleHandles vendor device = [] := by
  rw [moduleHandles, h]
  rfl

/-- The queries about a device, about the subdevices that the vendor lists, and about the modules
that it lists. -/
inductive Concerns (vendor : Answers) (device : DeviceHandle) : Query → Prop
  | whole {q : Query} (h : q.device? = some device) : Concerns vendor device q
  | part {q : Query} {handle : DeviceHandle} (hmem : handle ∈ subdeviceHandles vendor device)
    (h : q.device? = some handle) : Concerns vendor device q
  | module {q : Query} {handle : ModuleHandle} (hmem : handle ∈ moduleHandles vendor device)
    (h : q.module? = some handle) : Concerns vendor device q

/-- The source of memory sizes does not depend on what a vendor answers: it is settled, or there
is nothing to try out. -/
def MemoryChoice.IsFixed (choice : MemoryChoice) : Prop :=
  choice.source ≠ .unresolved ∨ choice.preference ≠ .auto

private theorem not_isFixed_auto : ¬(⟨.auto, .unresolved⟩ : MemoryChoice).IsFixed := by
  rintro (h | h)
  · exact h rfl
  · exact h rfl

/-- After a call for memory sizes the source is settled. -/
theorem isFixed_memorySizes (vendor : Answers) (family : DeviceFamily) (choice : MemoryChoice) :
    (memorySizes vendor family choice).value.1.IsFixed := by
  left
  rw [(memorySizes_spec ⟨vendor, family⟩ choice).1]
  exact MemoryCall.servedBy_ne_unresolved _ _

/-- A fixed choice once it has served a device. -/
def MemoryChoice.settled (choice : MemoryChoice) : MemoryChoice :=
  match choice.source, choice.preference with
  | .unresolved, .sysman => { choice with source := .sysman }
  | .unresolved, .core | .unresolved, .coreWithDdr => { choice with source := .core }
  | _, _ => choice

/-- A choice settles once. -/
theorem MemoryChoice.settled_settled (choice : MemoryChoice) :
    choice.settled.settled = choice.settled := by
  obtain ⟨preference, source⟩ := choice
  cases source <;> cases preference <;> rfl

/-- It does not matter for the memory sizes whether a choice has served a device before. -/
theorem memorySizes_settled (vendor : Answers) (family : DeviceFamily) (choice : MemoryChoice) :
    memorySizes vendor family choice.settled = memorySizes vendor family choice := by
  obtain ⟨preference, source⟩ := choice
  cases source <;> cases preference <;> rfl

/-- A call for memory sizes settles a fixed choice, whatever the vendor answers. -/
theorem MemoryChoice.IsFixed.value_memorySizes {choice : MemoryChoice} (h : choice.IsFixed)
    (vendor : Answers) (family : DeviceFamily) :
    (memorySizes vendor family choice).value.1 = choice.settled := by
  rw [(memorySizes_spec ⟨vendor, family⟩ choice).1]
  obtain ⟨preference, source⟩ := choice
  cases source with
  | core => rfl
  | sysman => rfl
  | unresolved =>
    cases preference with
    | auto => exact absurd h not_isFixed_auto
    | sysman => rfl
    | core => rfl
    | coreWithDdr => rfl

section Steps

variable {vendor vendor' : Answers} {α β : Type}

/-- What goes on from a failure to list as it does from an empty list, notes apart, goes on alike
from answers that list the same. -/
theorem bind_listed {events : List Event} {a b : Except Fault (List α)}
    (h : (Except.ok (listed a) : Except Fault (List α)) = .ok (listed b))
    {f : Except Fault (List α) → Described β}
    (hf : ∀ fault, Traced.Alike Event.noNote? Eq (f (.error fault)) (f (.ok []))) :
    Traced.Alike Event.noNote? Eq (⟨events, a⟩ >>= f) (⟨events, b⟩ >>= f) := by
  have hlisted (a : Except Fault (List α)) :
      Traced.Alike Event.noNote? Eq (f a) (f (.ok (listed a))) := by
    cases a with
    | error fault => exact hf fault
    | ok xs => exact Traced.Alike.refl _ rfl
  have halike : Traced.Alike Event.noNote? Eq (f a) (f b) := by
    refine (hlisted a).trans ?_
    rw [h]
    exact (hlisted b).symm
  refine ⟨?_, halike.value⟩
  rw [Traced.events_bind, Traced.events_bind, List.filterMap_append, List.filterMap_append,
    halike.events]

private theorem deviceProfile_congr {device : DeviceHandle}
    (h : ∀ q, q.device? = some device → Concur vendor vendor' q) (name : String)
    (standing : DeviceStanding) (switch : SysmanState) :
    deviceProfile vendor name device standing switch =
      deviceProfile vendor' name device standing switch := by
  have hproperties : vendor (.properties device) = vendor' (.properties device) :=
    h (.properties device) rfl
  have hidentity : vendor (.identity device) = vendor' (.identity device) :=
    h (.identity device) rfl
  simp only [deviceProfile, coreProperties, identityAttributes, ask, hproperties, hidentity]

private theorem queueAttributes_of_concur {device : DeviceHandle}
    (h : Concur vendor vendor' (.queueGroups device)) (name : String) :
    Traced.Alike Event.noNote? Eq (queueAttributes vendor name device)
      (queueAttributes vendor' name device) := by
  exact bind_listed h fun fault ↦ ⟨rfl, rfl⟩

private theorem subdevicesOf_of_concur {device : DeviceHandle}
    (h : Concur vendor vendor' (.subdevices device)) (name : String) :
    Traced.Alike Event.noNote? Eq (subdevicesOf vendor name device)
      (subdevicesOf vendor' name device) := by
  exact bind_listed h fun fault ↦ ⟨rfl, rfl⟩

private theorem memoryOf_of_concur {device : NamedDevice}
    (h : Concur vendor vendor' (.memories device.handle)) (ignoreDdr : Bool) :
    Traced.Alike Event.noNote? Eq (memoryOf vendor ignoreDdr device)
      (memoryOf vendor' ignoreDdr device) := by
  exact bind_listed h fun fault ↦ ⟨rfl, rfl⟩

private theorem memoryFromCore_of_concur {family : DeviceFamily}
    (h : ∀ handle ∈ family.handles, Concur vendor vendor' (.memories handle)) (ignoreDdr : Bool) :
    Traced.Alike Event.noNote? Eq (memoryFromCore vendor family ignoreDdr)
      (memoryFromCore vendor' family ignoreDdr) := by
  have hwhole := memoryOf_of_concur (h family.whole.handle List.mem_cons_self) ignoreDdr
  have hparts : Traced.Alike Event.noNote? Eq
      (Traced.collect (memoryOf vendor ignoreDdr) family.parts)
      (Traced.collect (memoryOf vendor' ignoreDdr) family.parts) := by
    refine Traced.Alike.collect fun part hpart ↦ memoryOf_of_concur (h _ ?_) ignoreDdr
    exact List.mem_cons_of_mem _ (List.mem_map_of_mem hpart)
  exact Traced.Alike.bind_eq hwhole (Traced.Alike.bind_eq hparts (Traced.Alike.refl _ rfl))

private theorem readModule_congr {handle : ModuleHandle}
    (h : ∀ q, q.module? = some handle → Concur vendor vendor' q) (parts m : Nat) :
    readModule vendor parts m handle = readModule vendor' parts m handle := by
  have hproperties : vendor (.moduleProperties handle) = vendor' (.moduleProperties handle) :=
    h (.moduleProperties handle) rfl
  have hstate : vendor (.moduleState handle) = vendor' (.moduleState handle) :=
    h (.moduleState handle) rfl
  simp only [readModule, effectiveSize, ask, hproperties, hstate]

private theorem memoryFromModules_congr {family : DeviceFamily}
    (hlist : vendor (.modules family.whole.handle) = vendor' (.modules family.whole.handle))
    (h : ∀ handle ∈ moduleHandles vendor family.whole.handle, ∀ q,
      q.module? = some handle → Concur vendor vendor' q) :
    memoryFromModules vendor family = memoryFromModules vendor' family := by
  have hask : ask vendor (.modules family.whole.handle) =
      ask vendor' (.modules family.whole.handle) := Traced.ext rfl hlist
  rw [memoryFromModules, memoryFromModules, ← hask]
  apply Traced.bind_congr_value
  rw [value_ask]
  cases hm : vendor (.modules family.whole.handle) with
  | error fault => rfl
  | ok handles =>
    rw [moduleHandles, hm] at h
    have hread : Traced.collect
        (fun numbered ↦ readModule vendor family.parts.length numbered.2 numbered.1)
          handles.zipIdx =
        Traced.collect (fun numbered ↦ readModule vendor' family.parts.length numbered.2 numbered.1)
          handles.zipIdx := by
      apply Traced.collect_congr
      intro numbered hmem
      exact readModule_congr (h numbered.1 (List.fst_mem_of_mem_zipIdx hmem)) _ _
    dsimp only
    rw [hread]

private theorem sysmanEntries_of_nothing {family : DeviceFamily} (choice : MemoryChoice)
    (h : moduleHandles vendor family.whole.handle = []) :
    Traced.Alike Event.noNote? Eq (sysmanEntries vendor family choice)
      ⟨[.query (.modules family.whole.handle)], (choice, [])⟩ := by
  rw [sysmanEntries, memoryFromModules, bind_assoc]
  cases hm : vendor (.modules family.whole.handle) with
  | error fault =>
    constructor
    · rw [Traced.events_bind, value_ask, hm]
      rfl
    · rw [Traced.value_bind, value_ask, hm]
      rfl
  | ok handles =>
    rw [moduleHandles, hm] at h
    have hnone : handles = [] := h
    constructor
    · rw [Traced.events_bind, value_ask, hm, hnone]
      rfl
    · rw [Traced.value_bind, value_ask, hm, hnone]
      rfl

private theorem sysmanEntries_of_concur {family : DeviceFamily}
    (hlist : Concur vendor vendor' (.modules family.whole.handle))
    (h : ∀ handle ∈ moduleHandles vendor family.whole.handle, ∀ q,
      q.module? = some handle → Concur vendor vendor' q) (choice : MemoryChoice) :
    Traced.Alike Event.noNote? Eq (sysmanEntries vendor family choice)
      (sysmanEntries vendor' family choice) := by
  have hlisted : moduleHandles vendor family.whole.handle =
      moduleHandles vendor' family.whole.handle := Except.ok.inj hlist
  by_cases hnone : moduleHandles vendor family.whole.handle = []
  · exact (sysmanEntries_of_nothing choice hnone).trans
      (sysmanEntries_of_nothing choice (hlisted ▸ hnone)).symm
  · have heq : vendor (.modules family.whole.handle) = vendor' (.modules family.whole.handle) := by
      rw [moduleHandles, moduleHandles] at hlisted
      rw [moduleHandles] at hnone
      cases hm : vendor (.modules family.whole.handle) with
      | error fault =>
        rw [hm] at hnone
        exact absurd rfl hnone
      | ok handles =>
        cases hm' : vendor' (.modules family.whole.handle) with
        | error fault =>
          rw [hlisted, hm'] at hnone
          exact absurd rfl hnone
        | ok handles' =>
          rw [hm, hm'] at hlisted
          exact congrArg Except.ok hlisted
    rw [sysmanEntries, sysmanEntries, memoryFromModules_congr heq h]
    exact Traced.Alike.refl _ rfl

private theorem coreEntries_of_concur {family : DeviceFamily}
    (h : ∀ handle ∈ family.handles, Concur vendor vendor' (.memories handle))
    (choice : MemoryChoice) :
    Traced.Alike Event.noNote? Eq (coreEntries vendor family choice)
      (coreEntries vendor' family choice) := by
  exact Traced.Alike.bind_eq (memoryFromCore_of_concur h _) (Traced.Alike.refl _ rfl)

private theorem tryModules_of_concur {family : DeviceFamily}
    (hlist : vendor (.modules family.whole.handle) = vendor' (.modules family.whole.handle))
    (hmodules : ∀ handle ∈ moduleHandles vendor family.whole.handle, ∀ q,
      q.module? = some handle → Concur vendor vendor' q)
    (hmemories : ∀ handle ∈ family.handles, Concur vendor vendor' (.memories handle))
    (choice : MemoryChoice) :
    Traced.Alike Event.noNote? Eq (tryModules vendor family choice)
      (tryModules vendor' family choice) := by
  rw [tryModules, tryModules, memoryFromModules_congr hlist hmodules]
  apply Traced.Alike.bind_same
  cases (memoryFromModules vendor' family).value with
  | ok entries => exact Traced.Alike.refl _ rfl
  | error fault => exact Traced.Alike.bind_same (coreEntries_of_concur hmemories _)

end Steps

section Describe

variable {vendor vendor' : Answers} {device : DeviceHandle}

/-- The memory sizes of a device depend on what concerns it. An open choice of source also depends
on whether the modules can be listed. -/
theorem memorySizes_of_concur {family : DeviceFamily} (hwhole : family.whole.handle = device)
    (hparts : ∀ part ∈ family.parts, part.handle ∈ subdeviceHandles vendor device)
    (h : ∀ q, Concerns vendor device q → Concur vendor vendor' q) {choice : MemoryChoice}
    (hchoice : choice.IsFixed ∨ vendor (.modules device) = vendor' (.modules device)) :
    Traced.Alike Event.noNote? Eq (memorySizes vendor family choice)
      (memorySizes vendor' family choice) := by
  subst hwhole
  have hmodules (handle : ModuleHandle) (hmem : handle ∈ moduleHandles vendor family.whole.handle)
      (q : Query) (hq : q.module? = some handle) : Concur vendor vendor' q :=
    h q (.module hmem hq)
  have hlist : Concur vendor vendor' (.modules family.whole.handle) := h _ (.whole rfl)
  have hmemories (handle : DeviceHandle) (hmem : handle ∈ family.handles) :
      Concur vendor vendor' (.memories handle) := by
    cases List.mem_cons.mp hmem with
    | inl he => exact h _ (.whole (congrArg some he))
    | inr hm =>
      obtain ⟨part, hpart, rfl⟩ := List.mem_map.mp hm
      exact h _ (.part (hparts part hpart) rfl)
  obtain ⟨preference, source⟩ := choice
  cases source with
  | core => exact coreEntries_of_concur hmemories _
  | sysman => exact sysmanEntries_of_concur hlist hmodules _
  | unresolved =>
    cases preference with
    | sysman => exact sysmanEntries_of_concur hlist hmodules _
    | core => exact coreEntries_of_concur hmemories _
    | coreWithDdr => exact coreEntries_of_concur hmemories _
    | auto =>
      have heq := hchoice.resolve_left not_isFixed_auto
      exact tryModules_of_concur heq hmodules hmemories _

private theorem describePart_of_concur (h : ∀ q, q.device? = some device → Concur vendor vendor' q)
    (switch : SysmanState) (whole : String) (k : Nat) :
    Traced.Alike Event.noNote? Eq (describePart vendor switch whole k device)
      (describePart vendor' switch whole k device) := by
  rw [describePart, describePart, deviceProfile_congr h]
  apply Traced.Alike.bind_same
  exact Traced.Alike.bind_eq (queueAttributes_of_concur (h _ rfl) _) (Traced.Alike.refl _ rfl)

/-- The survey of a device depends on what concerns the device. -/
theorem surveyDevice_of_concur {listing : Listing}
    (h : ∀ q, Concerns vendor listing.device q → Concur vendor vendor' q) (config : Configuration)
    (switch : SysmanState) :
    Traced.Alike Event.noNote? Eq (surveyDevice vendor config switch listing)
      (surveyDevice vendor' config switch listing) := by
  have hwhole (q : Query) (hq : q.device? = some listing.device) : Concur vendor vendor' q :=
    h q (.whole hq)
  rw [surveyDevice, surveyDevice, deviceProfile_congr hwhole]
  apply Traced.Alike.bind_same
  refine Traced.Alike.bind_eq (queueAttributes_of_concur (hwhole _ rfl) _) ?_
  refine Traced.Alike.bind_eq (subdevicesOf_of_concur (hwhole _ rfl) _) ?_
  rw [value_subdevicesOf]
  refine Traced.Alike.bind_eq (Traced.Alike.collect fun numbered hn ↦ ?_) (Traced.Alike.refl _ rfl)
  exact describePart_of_concur (fun q hq ↦ h q (.part (List.fst_mem_of_mem_zipIdx hn) hq)) _ _ _

/-- The parts of a family are subdevices that the vendor lists. -/
theorem handle_mem_of_surveyDevice {config : Configuration} {switch : SysmanState}
    {listing : Listing} {part : NamedDevice}
    (h : part ∈ (surveyDevice vendor config switch listing).value.family.parts) :
    part.handle ∈ subdeviceHandles vendor listing.device := by
  have hparts : ∃ sheets : List Sheet, part ∈ List.zipWith (fun h s ↦ ⟨h, s.name⟩)
      (subdevicesOf vendor (wholeSheet config listing).name listing.device).value sheets :=
    ⟨_, h⟩
  obtain ⟨sheets, hmem⟩ := hparts
  rw [value_subdevicesOf] at hmem
  obtain ⟨k, hk, rfl⟩ := List.mem_iff_getElem.mp hmem
  rw [List.getElem_zipWith]
  exact List.getElem_mem _

/-- The description of a device depends on what concerns the device. -/
theorem describe_of_concur {listing : Listing}
    (h : ∀ q, Concerns vendor listing.device q → Concur vendor vendor' q) (config : Configuration)
    (switch : SysmanState) {choice : MemoryChoice}
    (hchoice : choice.IsFixed ∨
      vendor (.modules listing.device) = vendor' (.modules listing.device)) :
    Traced.Alike Event.noNote? Eq (describe vendor config switch choice listing)
      (describe vendor' config switch choice listing) := by
  refine Traced.Alike.bind_eq (surveyDevice_of_concur h config switch) ?_
  refine Traced.Alike.bind_eq ?_ (Traced.Alike.refl _ rfl)
  exact memorySizes_of_concur rfl (fun part hpart ↦ handle_mem_of_surveyDevice hpart) h hchoice

/-- It does not matter for a description whether a choice has served a device before. -/
theorem describe_settled (vendor : Answers) (config : Configuration) (switch : SysmanState)
    (choice : MemoryChoice) (listing : Listing) :
    describe vendor config switch choice.settled listing =
      describe vendor config switch choice listing := by
  simp only [describe, memorySizes_settled]

/-- A description settles a fixed choice, whatever the vendor answers. -/
theorem MemoryChoice.IsFixed.value_describe {choice : MemoryChoice} (h : choice.IsFixed)
    (vendor : Answers) (config : Configuration) (switch : SysmanState) (listing : Listing) :
    (describe vendor config switch choice listing).value.1 = choice.settled :=
  h.value_memorySizes vendor _

end Describe

end AcceleratorTopology
