import AcceleratorTopology.Discovery.Environment
import AcceleratorTopology.Proofs.Discovery.SharedChoice
import AcceleratorTopology.Proofs.Events

/-!
# The automatic preference

A pass that is to find out by itself where memory sizes come from does what a pass with a fixed
preference does. Which one is decided by the first device alone, and nothing is left of a trial
in vain.
-/

namespace AcceleratorTopology

open Vendor Settings

/-- Whether a query lists the modules of a device. -/
def Vendor.Query.isModuleList : Query → Bool
  | modules _ => true
  | _ => false

namespace Event

/-- An event that is no note and lists no modules. -/
def noTrial? : Event → Option Event
  | note _ | query (.modules _) => none
  | e => some e

private theorem noTrial?_bind_raised? (e : Event) : (noTrial? e).bind raised? = raised? e := by
  rcases e with q | _ | _
  · cases q <;> rfl
  · rfl
  · rfl

private theorem filter_queries_congr_of_noTrial? {first second : List Event}
    (h : first.filterMap noTrial? = second.filterMap noTrial?) :
    (queries first).filter (fun q ↦ !q.isModuleList) =
      (queries second).filter fun q ↦ !q.isModuleList := by
  refine filter_queries_congr (fun e ↦ ?_) h
  rcases e with q | _ | _
  · cases q <;> rfl
  · rfl
  · rfl

end Event

/-- Two stages of a pass that differ in their choices at most, which are related. -/
structure Progress.AlikeBut (C : MemoryChoice → MemoryChoice → Prop) (p q : Progress) : Prop where
  topology : p.topology = q.topology
  placements : p.placements = q.placements
  choice : C p.choice q.choice

/-- Two answers to a call for memory sizes that differ in their choices at most. -/
def SameEntries (C : MemoryChoice → MemoryChoice → Prop)
    (a b : MemoryChoice × List MemoryEntry) : Prop := C a.1 b.1 ∧ a.2 = b.2

section Alike

variable {view : Event → Option Event} {C C' : MemoryChoice → MemoryChoice → Prop}

private theorem visit_driver_alike (vendor : Answers) (config : Configuration)
    (switch : SysmanState)
    {p q : Progress} (h : p.AlikeBut C q) (number : Nat) (handle : DriverHandle) :
    Traced.Alike view (Progress.AlikeBut C)
      (visit vendor config switch p (.driver number handle))
      (visit vendor config switch q (.driver number handle)) := by
  apply Traced.Alike.bind_same
  rw [value_ask]
  cases vendor (.devices handle) with
  | error fault => exact Traced.Alike.bind_same (Traced.Alike.pure h)
  | ok devices => exact Traced.Alike.pure h

private theorem visit_device_alike (vendor : Answers) (config : Configuration)
    (switch : SysmanState) {p q : Progress} (h : p.AlikeBut C q) (s : Site)
    (hm : ∀ family : DeviceFamily, family.whole.handle = s.device →
      Traced.Alike view (SameEntries C') (memorySizes vendor family p.choice)
        (memorySizes vendor family q.choice)) :
    Traced.Alike view (Progress.AlikeBut C') (visit vendor config switch p (.device s))
      (visit vendor config switch q (.device s)) := by
  rw [visit_device, visit_device, h.topology, h.placements, describe, describe, bind_assoc,
    bind_assoc]
  apply Traced.Alike.bind_same
  rw [bind_assoc, bind_assoc]
  refine Traced.Alike.bind (hm _ rfl) fun a b hab ↦ ?_
  rw [pure_bind, pure_bind, hab.2]
  exact Traced.Alike.map (R := Eq) (Traced.Alike.refl _ rfl) fun x y hxy ↦ hxy ▸ ⟨rfl, rfl, hab.1⟩

private theorem foldlM_visit_alike (vendor : Answers) (config : Configuration)
    (switch : SysmanState) {p q : Progress} (h : p.AlikeBut C q) (vs : List Visit)
    (hm : ∀ s, Visit.device s ∈ vs → ∀ family : DeviceFamily, ∀ c c', C c c' →
      Traced.Alike view (SameEntries C) (memorySizes vendor family c)
        (memorySizes vendor family c')) :
    Traced.Alike view (Progress.AlikeBut C) (vs.foldlM (visit vendor config switch) p)
      (vs.foldlM (visit vendor config switch) q) := by
  refine Traced.Alike.foldlM h fun p q v hv hpq ↦ ?_
  cases v with
  | driver number handle => exact visit_driver_alike vendor config switch hpq number handle
  | device s =>
    exact visit_device_alike vendor config switch hpq s fun family _ ↦ hm s hv family _ _ hpq.choice

/-- Passes without sites are alike whatever they choose. -/
theorem runPass_alike_of_no_sites (vendor : Answers) (config : Configuration)
    (switch : SysmanState) (t : Topology) (hs : sites vendor t = [])
    (choice choice' : MemoryChoice) :
    Traced.Alike view (Progress.AlikeBut fun _ _ ↦ True) (runPass vendor config switch choice t)
      (runPass vendor config switch choice' t) := by
  rw [runPass_eq, runPass_eq]
  apply Traced.Alike.bind_same
  rw [sites, ← filterMap_visits, List.filterMap_eq_nil_iff] at hs
  have hstart : Progress.AlikeBut (fun _ _ ↦ True) { topology := t, choice }
      { topology := t, choice := choice' } := ⟨rfl, rfl, trivial⟩
  refine foldlM_visit_alike vendor config switch hstart _ ?_
  intro s hmem
  cases hs _ hmem

/-- Passes are alike if the first call for memory sizes is alike and so are all later ones. -/
theorem runPass_alike (vendor : Answers) (config : Configuration) (switch : SysmanState)
    (t : Topology) {first : Site} {later : List Site} (hs : sites vendor t = first :: later)
    {choice choice' : MemoryChoice}
    (hfirst : ∀ family : DeviceFamily, family.whole.handle = first.device →
      Traced.Alike view (SameEntries C) (memorySizes vendor family choice)
        (memorySizes vendor family choice'))
    (hlater : ∀ family : DeviceFamily, ∀ c c', C c c' →
      Traced.Alike view (SameEntries C) (memorySizes vendor family c)
        (memorySizes vendor family c')) :
    Traced.Alike view (Progress.AlikeBut C) (runPass vendor config switch choice t)
      (runPass vendor config switch choice' t) := by
  rw [runPass_eq, runPass_eq]
  apply Traced.Alike.bind_same
  rw [sites, ← filterMap_visits] at hs
  obtain ⟨drivers, v, rest, hv, hd, hf, -⟩ := List.filterMap_eq_cons_iff.mp hs
  rw [hv, List.foldlM_append, List.foldlM_append]
  -- Up to the first device there are drivers only, and the choices are those of the start.
  have hstart : Progress.AlikeBut (fun c c' ↦ c = choice ∧ c' = choice')
      { topology := t, choice } { topology := t, choice := choice' } := ⟨rfl, rfl, rfl, rfl⟩
  refine Traced.Alike.bind (foldlM_visit_alike vendor config switch hstart drivers ?_)
    fun p q hpq ↦ ?_
  · intro s hmem
    cases hd _ hmem
  · rw [List.foldlM_cons, List.foldlM_cons]
    cases v with
    | driver number handle => cases hf
    | device s =>
      cases hf
      refine Traced.Alike.bind (R := Progress.AlikeBut C)
        (visit_device_alike vendor config switch hpq first ?_) fun p q hpq ↦ ?_
      · rw [hpq.choice.1, hpq.choice.2]
        exact hfirst
      · exact foldlM_visit_alike vendor config switch hpq rest fun s _ ↦ hlater

end Alike

/-- What a caller gets from a pass: the topology and the report. -/
def Pass.outcome (config : Configuration) (pass : Pass) : Topology × Report :=
  (pass.value.topology, pass.report config)

/-- Alike passes have the same outcome, if the view shows warnings as they are. -/
theorem outcome_congr {view : Event → Option Event}
    {C : MemoryChoice → MemoryChoice → Prop} {config config' : Configuration} {x y : Pass}
    (hv : ∀ e, (view e).bind Event.raised? = Event.raised? e)
    (hc : config.hideErrors = config'.hideErrors)
    (h : Traced.Alike view (Progress.AlikeBut C) x y) :
    x.outcome config = y.outcome config' := by
  have hr := Event.raisedWarnings_congr hv h.events
  simp only [Pass.outcome, Pass.report, Pass.observed, Warnings.observe_fst, h.value.topology,
    h.value.placements, hr, hc]

private theorem coreEntries_alike {view : Event → Option Event} (vendor : Answers)
    (family : DeviceFamily)
    (c c' : MemoryChoice) (h : c.preference ≠ .coreWithDdr) (h' : c'.preference ≠ .coreWithDdr) :
    Traced.Alike view (SameEntries fun a b ↦ a = c ∧ b = c') (coreEntries vendor family c)
      (coreEntries vendor family c') := by
  have hi : ignoresDdr c family = ignoresDdr c' family := by
    simp [ignoresDdr, h, h']
  rw [coreEntries, coreEntries, hi]
  exact Traced.Alike.bind_same (Traced.Alike.pure ⟨⟨rfl, rfl⟩, rfl⟩)

private theorem sysmanEntries_alike {view : Event → Option Event} (vendor : Answers)
    (family : DeviceFamily) (c c' : MemoryChoice) :
    Traced.Alike view (SameEntries fun a b ↦ a = c ∧ b = c') (sysmanEntries vendor family c)
      (sysmanEntries vendor family c') := by
  apply Traced.Alike.bind_same
  cases (memoryFromModules vendor family).value with
  | ok entries => exact Traced.Alike.pure ⟨⟨rfl, rfl⟩, rfl⟩
  | error fault => exact Traced.Alike.bind_same (Traced.Alike.pure ⟨⟨rfl, rfl⟩, rfl⟩)

private theorem tryModules_alike_sysman (vendor : Answers) (family : DeviceFamily)
    {ms : List ModuleHandle}
    (h : vendor (.modules family.whole.handle) = .ok ms) (c c' : MemoryChoice) :
    Traced.Alike Event.noNote? (SameEntries fun a b ↦ a = { c with source := .sysman } ∧ b = c')
      (tryModules vendor family c) (sysmanEntries vendor family c') := by
  apply Traced.Alike.bind_same
  rw [value_memoryFromModules_of_ok h]
  exact ⟨rfl, ⟨rfl, rfl⟩, rfl⟩

private theorem tryModules_alike_core (vendor : Answers) (family : DeviceFamily) {fault : Fault}
    (h : vendor (.modules family.whole.handle) = .error fault) (c c' : MemoryChoice)
    (hc : c.preference ≠ .coreWithDdr) (hc' : c'.preference ≠ .coreWithDdr) :
    Traced.Alike Event.noTrial? (SameEntries fun a b ↦ a = { c with source := .core } ∧ b = c')
      (tryModules vendor family c) (coreEntries vendor family c') := by
  have ht : tryModules vendor family c =
      ask vendor (.modules family.whole.handle) >>= fun _ ↦
        takeNote s!"Sysman memory query failed ({fault.message}), using core API memory queries" >>=
          fun _ ↦ coreEntries vendor family { c with source := .core } := by
    rw [tryModules, memoryFromModules, bind_assoc]
    apply Traced.bind_congr_value
    rw [value_ask, h]
    rfl
  have hserved : Traced.Alike Event.noTrial? _ _ _ :=
    coreEntries_alike vendor family { c with source := .core } c' hc hc'
  rw [ht]
  exact ⟨hserved.events, hserved.value⟩

private theorem asked_isModuleList {α : Type} (x : Described α) :
    asked Query.isModuleList x = (asked Query.isMemoryList x).filter Query.isModuleList := by
  rw [asked, asked, List.filter_filter]
  refine congrArg (List.filter · _) (funext fun q ↦ ?_)
  cases q <;> rfl

/-- A pass whose first device settles on the core interface lists modules once if it tries them, and
never otherwise. -/
theorem moduleLists_runPass (vendor : Answers) (config : Configuration) (switch : SysmanState)
    (t : Topology) (preference : MemoryPreference) {first : Site} {later : List Site}
    (hs : sites vendor t = first :: later)
    (hcore : ∀ call : MemoryCall, call.vendor = vendor →
      call.family.whole.handle = first.device → call.settles preference = .core) :
    asked Query.isModuleList (runPass vendor config switch { preference } t) =
      if preference = .auto then [.modules first.device] else [] := by
  obtain ⟨calls, hm, -, hl⟩ := servePass_calls { preference } ⟨vendor, config, switch, t⟩
  rw [PassRequest.devices, hs] at hm
  cases calls with
  | nil => cases hm
  | cons call calls =>
    rw [List.map_cons, List.map_cons, List.cons.injEq, Prod.mk.injEq] at hm
    have hsettles := hcore call hm.1.1 hm.1.2
    have hmemories (call : MemoryCall) : (call.lists .core).filter Query.isModuleList = [] := by
      rw [MemoryCall.lists, List.filter_map]
      exact congrArg _ (List.filter_eq_nil_iff.mpr fun _ _ ↦ Bool.false_ne_true)
    have hrun := (serveCalls_spec preference (call :: calls)).2
    rw [settledBy, hsettles, List.head?_cons, Option.toList_some, List.flatMap_singleton,
      MemoryCall.trial_unresolved, hsettles, hm.1.2] at hrun
    rw [servePass, asked_map] at hl
    rw [asked_isModuleList, hl]
    refine (congrArg (List.filter Query.isModuleList) hrun).trans ?_
    rw [List.filter_append, List.filter_flatMap,
      List.flatMap_eq_nil_iff.mpr fun call _ ↦ hmemories call, List.append_nil]
    simp only [and_true]
    split
    · rfl
    · rfl

section Auto

variable (vendor : Answers) (config : Configuration) (switch : SysmanState) (t : Topology)
  {first : Site} {later : List Site} (hs : sites vendor t = first :: later)
include hs

/-- If the modules of the first device can be listed, a pass that tries them is no different from
one that prefers them, notes apart. -/
theorem runPass_auto_alike_sysman {ms : List ModuleHandle}
    (h : vendor (.modules first.device) = .ok ms) :
    Traced.Alike Event.noNote?
      (Progress.AlikeBut fun c c' ↦ c = ⟨.auto, .sysman⟩ ∧ c' = ⟨.sysman, .sysman⟩)
      (runPass vendor config switch { preference := .auto } t)
      (runPass vendor config switch { preference := .sysman } t) := by
  apply runPass_alike vendor config switch t hs
  · intro family hf
    rw [← hf] at h
    exact tryModules_alike_sysman vendor family h { preference := .auto } ⟨.sysman, .sysman⟩
  · rintro family _ _ ⟨rfl, rfl⟩
    exact sysmanEntries_alike vendor family _ _

/-- If the modules of the first device cannot be listed, a pass that tries them is no different from
one that prefers the core interface, notes and the trial apart. -/
theorem runPass_auto_alike_core {fault : Fault}
    (h : vendor (.modules first.device) = .error fault) :
    Traced.Alike Event.noTrial?
      (Progress.AlikeBut fun c c' ↦ c = ⟨.auto, .core⟩ ∧ c' = ⟨.core, .core⟩)
      (runPass vendor config switch { preference := .auto } t)
      (runPass vendor config switch { preference := .core } t) := by
  apply runPass_alike vendor config switch t hs
  · intro family hf
    rw [← hf] at h
    exact tryModules_alike_core vendor family h { preference := .auto } ⟨.core, .core⟩ (by decide)
      (by decide)
  · rintro family _ _ ⟨rfl, rfl⟩
    exact coreEntries_alike vendor family _ _ (by decide) (by decide)

private theorem moduleLists_auto {fault : Fault}
    (h : vendor (.modules first.device) = .error fault) :
    asked Query.isModuleList (runPass vendor config switch { preference := .auto } t) =
      [.modules first.device] := by
  refine moduleLists_runPass vendor config switch t .auto hs fun call hvendor hhandle ↦ ?_
  rw [MemoryCall.settles, hvendor, hhandle, h]

private theorem queries_core :
    asked (fun q ↦ !q.isModuleList) (runPass vendor config switch { preference := .core } t) =
      Pass.queries (runPass vendor config switch { preference := .core } t) := by
  have hnone := moduleLists_runPass vendor config switch t .core hs fun _ _ _ ↦ rfl
  apply List.filter_eq_self.mpr
  intro q hq
  have hq' := List.filter_eq_nil_iff.mp hnone q hq
  rw [Bool.not_eq_true] at hq'
  rw [hq']
  rfl

end Auto

/-- A pass with the automatic preference and no choice yet has the outcome of a pass that prefers
the modules if those of the first device can be listed, and of one that prefers the core interface
if they cannot. It asks the same queries, but for the one list of modules asked for in vain, so no
device is served twice or by the other interface. -/
theorem auto_pass_eq_fixed_pass (vendor : Answers) (config : Configuration) (switch : Variable)
    (t : Topology) :
    let pass (preference : MemoryPreference) : Pass :=
      discoverDevices vendor { config with memory := preference } switch t
    let outcome (preference : MemoryPreference) : Topology × Report :=
      (pass preference).outcome { config with memory := preference }
    match (sites vendor t).head? with
    | none => ∀ preference, outcome .auto = outcome preference
    | some first =>
      match vendor (.modules first.device) with
      | .ok _ =>
        outcome .auto = outcome .sysman ∧ (pass .auto).value.choice.source = .sysman ∧
          (pass .auto).queries = (pass .sysman).queries
      | .error _ =>
        outcome .auto = outcome .core ∧ (pass .auto).value.choice.source = .core ∧
          asked Query.isModuleList (pass .auto) = [.modules first.device] ∧
          asked (fun q ↦ !q.isModuleList) (pass .auto) = (pass .core).queries := by
  intro pass outcome
  -- The preference is no more to a pass than the choice that it starts with.
  have hpass (preference : MemoryPreference) :
      pass preference = runPass vendor config (config.sysmanState switch) { preference } t := rfl
  cases hs : sites vendor t with
  | nil =>
    intro preference
    exact outcome_congr Event.noNote?_bind_raised? rfl
      (runPass_alike_of_no_sites _ config _ _ hs _ _)
  | cons first later =>
    rw [List.head?_cons]
    dsimp only
    cases hv : vendor (.modules first.device) with
    | ok ms =>
      have halike := runPass_auto_alike_sysman vendor config (config.sysmanState switch) t hs hv
      rw [← hpass, ← hpass] at halike
      refine ⟨outcome_congr Event.noNote?_bind_raised? rfl halike, ?_, ?_⟩
      · rw [halike.value.choice.1]
      · exact Event.queries_congr_of_noNote? halike.events
    | error fault =>
      have halike := runPass_auto_alike_core vendor config (config.sysmanState switch) t hs hv
      rw [← hpass, ← hpass] at halike
      refine ⟨outcome_congr Event.noTrial?_bind_raised? rfl halike, ?_, ?_, ?_⟩
      · rw [halike.value.choice.1]
      · exact moduleLists_auto vendor config _ t hs hv
      · rw [hpass .core, ← queries_core vendor config _ t hs, ← hpass]
        exact Event.filter_queries_congr_of_noTrial? halike.events

end AcceleratorTopology
