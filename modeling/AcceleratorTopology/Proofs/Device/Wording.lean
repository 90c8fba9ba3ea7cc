import AcceleratorTopology.Proofs.Device.Warnings
import Mathlib.Data.List.Forall2

/-!
# What the switch says about a device

The state of the management interface's switch matters for one thing only: for the wording of the
warning that the identity of a device cannot be had. A device is described in the same way whatever
the state is, and all other warnings read the same.
-/

namespace AcceleratorTopology

open Vendor Settings

/-- An event that is no warning about an identity. -/
def Event.noIdentity? : Event → Option Event
  | raised r => if r.warning.kind = .sysmanUnavailable then none else some (raised r)
  | e => some e

/-- Queries are no warnings. -/
theorem Event.noIdentity?_bind_query? (e : Event) : (noIdentity? e).bind query? = query? e := by
  cases e with
  | query q => rfl
  | note text => rfl
  | raised r =>
    rw [noIdentity?]
    split <;> rfl

private theorem missing_alike (message message' : String) :
    Traced.Alike Event.noIdentity? Eq (raiseWarning .sysmanUnavailable true message)
      (raiseWarning .sysmanUnavailable true message') := by
  have hnone (message : String) :
      (raiseWarning .sysmanUnavailable true message).events.filterMap Event.noIdentity? = [] := rfl
  exact ⟨(hnone message).trans (hnone message').symm, rfl⟩

section Alike

variable (vendor : Answers) (switch switch' : SysmanState)

private theorem identityAttributes_switch_alike (device : DeviceHandle) :
    Traced.Alike Event.noIdentity? Eq (identityAttributes vendor device switch)
      (identityAttributes vendor device switch') := by
  apply Traced.Alike.bind_same
  rw [value_ask]
  cases vendor (.identity device) with
  | error fault => exact Traced.Alike.bind_eq (missing_alike _ _) (Traced.Alike.refl _ rfl)
  | ok strings => exact Traced.Alike.refl _ rfl

private theorem deviceProfile_switch_alike (name : String) (device : DeviceHandle)
    (standing : DeviceStanding) :
    Traced.Alike Event.noIdentity? Eq (deviceProfile vendor name device standing switch)
      (deviceProfile vendor name device standing switch') := by
  apply Traced.Alike.bind_same
  dsimp only
  split
  · exact Traced.Alike.refl _ rfl
  · exact Traced.Alike.bind_eq (identityAttributes_switch_alike vendor switch switch' device)
      (Traced.Alike.refl _ rfl)

private theorem describePart_switch_alike (whole : String) (k : Nat) (device : DeviceHandle) :
    Traced.Alike Event.noIdentity? Eq (describePart vendor switch whole k device)
      (describePart vendor switch' whole k device) :=
  Traced.Alike.bind_eq (deviceProfile_switch_alike vendor switch switch' _ device .part)
    (Traced.Alike.refl _ rfl)

private theorem surveyDevice_switch_alike (config : Configuration) (listing : Listing) :
    Traced.Alike Event.noIdentity? Eq (surveyDevice vendor config switch listing)
      (surveyDevice vendor config switch' listing) := by
  refine Traced.Alike.bind_eq (deviceProfile_switch_alike vendor switch switch' _ _ .whole) ?_
  apply Traced.Alike.bind_same
  apply Traced.Alike.bind_same
  refine Traced.Alike.bind_eq (Traced.Alike.collect fun numbered _ ↦ ?_) ?_
  · exact describePart_switch_alike vendor switch switch' _ numbered.2 numbered.1
  · exact Traced.Alike.refl _ rfl

/-- The description of a device does not depend on the switch. -/
theorem describe_switch_alike (config : Configuration) (choice : MemoryChoice) (listing : Listing) :
    Traced.Alike Event.noIdentity? Eq (describe vendor config switch choice listing)
      (describe vendor config switch' choice listing) :=
  Traced.Alike.bind_eq (surveyDevice_switch_alike vendor switch switch' config listing)
    (Traced.Alike.refl _ rfl)

end Alike

/-- A warning, and what it reads when the switch is in another state. -/
inductive Warning.Reads (switch switch' : SysmanState) : Warning → Warning → Prop
  | same {w : Warning} (h : w.kind ≠ .sysmanUnavailable) : Reads switch switch' w w
  | worded (fault : Fault) : Reads switch switch'
    ⟨.sysmanUnavailable, identityMissing switch fault⟩
    ⟨.sysmanUnavailable, identityMissing switch' fault⟩

/-- However it reads, a warning is of the same kind. -/
theorem Warning.Reads.kind_eq {switch switch' : SysmanState} {w w' : Warning}
    (h : Reads switch switch' w w') : w.kind = w'.kind := by
  cases h with
  | same _ => rfl
  | worded fault => rfl

/-- Warnings that are of the same kinds one by one repeat earlier ones in the same places. -/
theorem forall₂_withoutRepeats {R : Warning → Warning → Prop}
    (hkind : ∀ a b, R a b → a.kind = b.kind) {ws ws' : List Warning} (h : List.Forall₂ R ws ws') :
    List.Forall₂ R (withoutRepeats ws) (withoutRepeats ws') := by
  induction h with
  | nil => exact .nil
  | @cons a b _ _ hab _ ih =>
    refine .cons hab (List.rel_filter (fun x y hxy ↦ ?_) ih)
    simp only [Warning.repeats, hkind a b hab, hkind x y hxy]

section Reads

variable {vendor : Answers} {switch switch' : SysmanState}

/-- Warnings of other kinds read the same. -/
theorem forall₂_reads_same {ws : List Warning} (h : ∀ w ∈ ws, w.kind ≠ .sysmanUnavailable) :
    List.Forall₂ (Warning.Reads switch switch') ws ws :=
  List.forall₂_same.mpr fun w hw ↦ .same (h w hw)

private theorem kind_of_mem_typeWarnings {device : DeviceHandle} {w : Warning}
    (h : w ∈ typeWarnings vendor device) : w.kind = .unexpectedDeviceType := by
  unfold typeWarnings at h
  split at h
  · cases h
  · split at h
    · rw [List.mem_singleton.mp h]
    · cases h

private theorem kind_of_mem_attributionWarnings {parts : Nat} {device : DeviceHandle} {w : Warning}
    (h : w ∈ attributionWarnings vendor parts device) : w.kind = .subdeviceAttribution := by
  obtain ⟨numbered, -, hm⟩ := List.mem_flatMap.mp h
  unfold moduleWarnings at hm
  split at hm
  · cases hm
  · split at hm
    · rw [List.mem_singleton.mp hm]
    · cases hm

/-- Of the warnings about a device only the one about its identity depends on the switch. -/
theorem deviceWarnings_reads (source : MemorySource) (device : DeviceHandle) :
    List.Forall₂ (Warning.Reads switch switch') (deviceWarnings vendor switch source device)
      (deviceWarnings vendor switch' source device) := by
  have htypes (ds : List DeviceHandle) : List.Forall₂ (Warning.Reads switch switch')
      (ds.flatMap (typeWarnings vendor)) (ds.flatMap (typeWarnings vendor)) := by
    refine forall₂_reads_same fun w hw ↦ ?_
    obtain ⟨d, -, hm⟩ := List.mem_flatMap.mp hw
    rw [kind_of_mem_typeWarnings hm]
    decide
  have htype : List.Forall₂ (Warning.Reads switch switch') (typeWarnings vendor device)
      (typeWarnings vendor device) := by
    have := htypes [device]
    rwa [List.flatMap_singleton] at this
  have hidentity : List.Forall₂ (Warning.Reads switch switch')
      (identityWarnings vendor switch device) (identityWarnings vendor switch' device) := by
    unfold identityWarnings
    split
    · exact .nil
    · cases vendor (.identity device) with
      | error fault => exact .cons (.worded fault) .nil
      | ok strings => exact .nil
  refine List.rel_append (List.rel_append (List.rel_append htype hidentity) (htypes _)) ?_
  refine forall₂_reads_same fun w hw ↦ ?_
  split at hw
  · rw [kind_of_mem_attributionWarnings hw]
    decide
  · cases hw

end Reads

end AcceleratorTopology
