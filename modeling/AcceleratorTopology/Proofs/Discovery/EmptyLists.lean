import AcceleratorTopology.Proofs.Device.Agreement
import AcceleratorTopology.Proofs.Discovery.Numbering
import AcceleratorTopology.Proofs.Discovery.Preference

/-!
# Lists that cannot be had

A pass comes to the same whether a list cannot be had or is empty, wherever in the pass that is and
however often: nothing is left half done, nothing is warned of and nothing is asked again. The one
exception are the modules that the automatic preference tries.
-/

namespace AcceleratorTopology

open Vendor Settings

/-- The vendor that lists nothing where another one fails to list, for some chosen queries. -/
def Vendor.Answers.withEmpty (vendor : Answers) (chosen : Query → Bool) : Answers := fun q ↦
  if chosen q then q.orEmpty (vendor q) else vendor q

/-- Putting an empty list in place of a failure a second time changes nothing. -/
theorem Vendor.Query.orEmpty_orEmpty (q : Query) (answer : Except Fault q.Answer) :
    q.orEmpty (q.orEmpty answer) = q.orEmpty answer := by
  rw [orEmpty, orEmpty]
  cases q.empty? <;> rfl

/-- A vendor concurs with the one that lists nothing where it fails to list. -/
theorem concur_withEmpty (vendor : Answers) (chosen : Query → Bool) (q : Query) :
    Concur vendor (vendor.withEmpty chosen) q := by
  rw [Concur, Answers.withEmpty]
  split
  · exact (q.orEmpty_orEmpty _).symm
  · rfl

section Concur

variable {vendor vendor' : Answers}

private theorem visits_of_concur (h : ∀ q, Concur vendor vendor' q) (drivers : List DriverHandle) :
    visits vendor drivers = visits vendor' drivers := by
  refine List.flatMap_congr fun numbered _ ↦ ?_
  have hlist : listed (vendor (.devices numbered.1)) = listed (vendor' (.devices numbered.1)) :=
    Except.ok.inj (h (.devices numbered.1))
  rw [sitesOf_eq_listed, sitesOf_eq_listed, hlist]

private theorem opening_of_concur (h : ∀ q, Concur vendor vendor' q) (t : Topology) :
    Traced.Alike Event.noNote? Eq (opening vendor t) (opening vendor' t) := by
  have hinit : ask vendor .init = ask vendor' .init := Traced.ext rfl (h .init)
  rw [opening, opening, hinit]
  split
  · exact Traced.Alike.refl _ rfl
  · apply Traced.Alike.bind_same
    cases (ask vendor' .init).value with
    | error fault => exact Traced.Alike.refl _ rfl
    | ok _ => exact bind_listed (h .drivers) fun fault ↦ ⟨rfl, rfl⟩

private theorem visit_driver_of_concur {handle : DriverHandle}
    (h : Concur vendor vendor' (.devices handle))
    (config : Configuration) (switch : SysmanState) (p : Progress) (number : Nat) :
    Traced.Alike Event.noNote? Eq (visit vendor config switch p (.driver number handle))
      (visit vendor' config switch p (.driver number handle)) := by
  exact bind_listed h fun fault ↦ ⟨rfl, rfl⟩

private theorem placeDevice_congr {device : DeviceHandle}
    (h : vendor (.location device) = vendor' (.location device)) (t : Topology) (d : Description) :
    placeDevice vendor t device d = placeDevice vendor' t device d := by
  simp only [placeDevice, locate, ask, h]

private theorem visit_device_of_concur {s : Site}
    (h : ∀ q, Concerns vendor s.device q → Concur vendor vendor' q) (config : Configuration)
    (switch : SysmanState) {p : Progress}
    (hchoice : p.choice.IsFixed ∨ vendor (.modules s.device) = vendor' (.modules s.device)) :
    Traced.Alike Event.noNote? Eq (visit vendor config switch p (.device s))
      (visit vendor' config switch p (.device s)) := by
  have hlocation : vendor (.location s.device) = vendor' (.location s.device) :=
    h (.location s.device) (.whole rfl)
  rw [visit_device, visit_device]
  refine Traced.Alike.bind_eq (describe_of_concur h config switch hchoice) ?_
  rw [placeDevice_congr hlocation]
  exact Traced.Alike.refl _ rfl

/-- A visit keeps a choice of source that is fixed. -/
theorem isFixed_visit (vendor : Answers) (config : Configuration) (switch : SysmanState)
    {p : Progress} (h : p.choice.IsFixed) (v : Visit) :
    (visit vendor config switch p v).value.choice.IsFixed := by
  cases v with
  | driver number handle =>
    rw [value_visit_driver]
    exact h
  | device s =>
    rw [value_visit_device]
    exact isFixed_memorySizes vendor _ p.choice

/-- Vendors that concur give passes that are alike, notes apart. If the source of memory sizes is
still to be tried out, they also have to agree on which lists of modules cannot be had. -/
theorem runPass_of_concur (h : ∀ q, Concur vendor vendor' q) (config : Configuration)
    (switch : SysmanState) {choice : MemoryChoice}
    (hchoice : choice.IsFixed ∨ ∀ device, vendor (.modules device) = vendor' (.modules device))
    (t : Topology) :
    Traced.Alike Event.noNote? Eq (runPass vendor config switch choice t)
      (runPass vendor' config switch choice t) := by
  rw [runPass_eq, runPass_eq]
  refine Traced.Alike.bind_eq (opening_of_concur h t) ?_
  rw [visits_of_concur h]
  -- The choice stays as good as it is at the start, visit by visit.
  let Same (p q : Progress) : Prop := p = q ∧
    (p.choice.IsFixed ∨ ∀ device, vendor (.modules device) = vendor' (.modules device))
  have hloop (vs : List Visit) :
      Traced.Alike Event.noNote? Same
        (vs.foldlM (visit vendor config switch) { topology := t, choice })
        (vs.foldlM (visit vendor' config switch) { topology := t, choice }) := by
    refine Traced.Alike.foldlM ⟨rfl, hchoice⟩ ?_
    rintro p _ v - ⟨rfl, hp⟩
    have halike : Traced.Alike Event.noNote? Eq (visit vendor config switch p v)
        (visit vendor' config switch p v) := by
      cases v with
      | driver number handle => exact visit_driver_of_concur (h _) config switch p number
      | device s =>
        exact visit_device_of_concur (fun q _ ↦ h q) config switch (hp.imp_right fun hm ↦ hm _)
    refine ⟨halike.events, halike.value, hp.imp_left fun hfixed ↦ ?_⟩
    exact isFixed_visit vendor config switch hfixed v
  exact ⟨(hloop _).events, (hloop _).value.1⟩

end Concur

/-- A failure to list something is as good as an empty list. Whichever failures of a vendor to list
drivers, devices, subdevices, queue groups, memories or modules are taken for empty lists, a pass
has the same outcome, settles on the same source of memory sizes and asks the same queries. Nothing
but notes tells the passes apart, so an onlooker sees the same warnings. Only where the modules are
still to be tried out does it matter whether they can be listed. -/
theorem failed_lists_pass_for_empty (vendor : Answers) (config : Configuration)
    (switch : SysmanState) (choice : MemoryChoice) (t : Topology) (chosen : Query → Bool)
    (hmodules : choice.source = .unresolved → choice.preference = .auto →
      ∀ device, chosen (.modules device) = false) :
    let pass : Pass := runPass vendor config switch choice t
    let pass' : Pass := runPass (vendor.withEmpty chosen) config switch choice t
    pass'.outcome config = pass.outcome config ∧ pass'.value.choice = pass.value.choice ∧
      pass'.queries = pass.queries ∧
      pass'.events.filterMap Event.noNote? = pass.events.filterMap Event.noNote? ∧
      (pass'.log config).filter LogLine.isWarning = (pass.log config).filter LogLine.isWarning := by
  intro pass pass'
  have hchoice : choice.IsFixed ∨
      ∀ device, vendor (.modules device) = vendor.withEmpty chosen (.modules device) := by
    by_cases hfixed : choice.IsFixed
    · exact Or.inl hfixed
    · rw [MemoryChoice.IsFixed, not_or, not_not, not_not] at hfixed
      refine Or.inr fun device ↦ ?_
      rw [Answers.withEmpty, hmodules hfixed.1 hfixed.2 device]
      rfl
  have halike : Traced.Alike Event.noNote? Eq pass' pass :=
    (runPass_of_concur (concur_withEmpty vendor chosen) config switch hchoice t).symm
  have hbut : Traced.Alike Event.noNote? (Progress.AlikeBut Eq) pass' pass :=
    ⟨halike.events, halike.value ▸ ⟨rfl, rfl, rfl⟩⟩
  refine ⟨outcome_congr Event.noNote?_bind_raised? rfl hbut, hbut.value.choice,
    Event.queries_congr_of_noNote? halike.events, halike.events, ?_⟩
  rw [Pass.log, Pass.log, Pass.observed, Pass.observed, Warnings.observe_noNote?,
    Warnings.observe_noNote? _ pass.events, halike.events]

/-- A vendor whose first driver cannot list its devices, and whose devices can list neither queue
groups nor memories, is as good as one that lists nothing there. -/
theorem relisting_failed_lists_pass_for_empty :
    let chosen : Query → Bool := fun q ↦ !q.isModuleList
    let silent := relistingVendor.withEmpty chosen
    relistingVendor (.devices ⟨1⟩) ≠ .ok [] ∧ silent (.devices ⟨1⟩) = .ok [] ∧
    relistingVendor (.memories ⟨7⟩) ≠ .ok [] ∧ silent (.memories ⟨7⟩) = .ok [] ∧
    (∀ device, chosen (.modules device) = false) ∧
    let pass : Pass := runPass relistingVendor {} .enabled ⟨.auto, .unresolved⟩ .bare
    let pass' : Pass := runPass silent {} .enabled ⟨.auto, .unresolved⟩ .bare
    pass'.outcome {} = pass.outcome {} ∧ pass'.value.choice = pass.value.choice ∧
      pass'.queries = pass.queries ∧
      pass'.events.filterMap Event.noNote? = pass.events.filterMap Event.noNote? ∧
      (pass'.log {}).filter LogLine.isWarning = (pass.log {}).filter LogLine.isWarning := by
  refine ⟨nofun, rfl, nofun, rfl, fun _ ↦ rfl, ?_⟩
  exact failed_lists_pass_for_empty relistingVendor {} .enabled ⟨.auto, .unresolved⟩ .bare _
    fun _ _ _ ↦ rfl

end AcceleratorTopology
