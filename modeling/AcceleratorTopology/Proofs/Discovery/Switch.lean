import AcceleratorTopology.Discovery.Environment
import AcceleratorTopology.Proofs.Discovery.Growth
import AcceleratorTopology.Proofs.Settings.Numbers

/-!
# What becomes of the switch

The management interface's switch is set to one by whoever switches it on, and so by passes that
are started that way and are not told what it stands for. A text that is in it stays; bytes that are
no text do not, since they are taken for an unset variable. Whether a topology keeps any devices is
looked at only afterwards, so that a pass that does nothing else may still set the switch.
-/

namespace AcceleratorTopology

open Vendor Settings

namespace Settings

namespace Variable

/-- The variable is set to bytes that are no text. -/
def IsGarbled (v : Variable) : Prop := ∃ bytes, v = value bytes ∧ Text.Utf8.decode? bytes = none

/-- The variable after it is set to one, if that is asked for and there is no text in it. -/
def oneIf (asked : Bool) (v : Variable) : Variable :=
  if asked = true ∧ v.text? = none then ofText "1" else v

variable {v : Variable} {asked : Bool}

/-- There is no text in a variable that is not set, nor in one that is garbled. -/
theorem text?_eq_none_iff : v.text? = none ↔ v = unset ∨ v.IsGarbled := by
  cases v with
  | unset => exact ⟨fun _ ↦ .inl rfl, fun _ ↦ rfl⟩
  | value bytes =>
    constructor
    · exact fun h ↦ .inr ⟨bytes, rfl, h⟩
    · rintro (h | ⟨bytes', h, hdecode⟩)
      · cases h
      · cases h
        exact hdecode

private theorem oneIf_false : v.oneIf false = v := rfl

/-- What is asked for twice is done once. -/
theorem oneIf_oneIf (again : Bool) : (v.oneIf asked).oneIf again = v.oneIf (asked || again) := by
  by_cases hv : v.text? = none
  · cases asked with
    | false => rw [oneIf_false, Bool.false_or]
    | true => simp [oneIf, hv, text?_ofText]
  · simp [oneIf, hv]

private theorem oneIf_ne_iff : v.oneIf asked ≠ v ↔ asked = true ∧ (v = unset ∨ v.IsGarbled) := by
  rw [oneIf, ← text?_eq_none_iff]
  split
  · next h =>
    refine iff_of_true (fun heq ↦ ?_) h
    rw [← heq, text?_ofText] at h
    cases h.2
  · next h => exact iff_of_false (fun hne ↦ hne rfl) h

private theorem oneIf_eq_of_ne (h : v.oneIf asked ≠ v) : v.oneIf asked = ofText "1" := by
  rw [oneIf] at h ⊢
  split
  · rfl
  · next hkept => exact absurd (if_neg hkept) h

end Variable

namespace SysmanState

private theorem ofVariable_eq_maybeLate_iff {v : Variable} :
    ofVariable v = maybeLate ↔ v.text? = none := by
  rw [ofVariable]
  cases v.text? with
  | none => exact iff_of_true rfl rfl
  | some s =>
    rw [ofText]
    split
    · exact iff_of_false (by decide) (Option.some_ne_none s)
    · exact iff_of_false (by decide) (Option.some_ne_none s)

/-- To switch on is to set the variable to one, where there is no text in it. -/
theorem switchOn_snd (v : Variable) : (switchOn v).2 = v.oneIf true := by
  rw [switchOn, Variable.oneIf]
  exact if_congr (ofVariable_eq_maybeLate_iff.trans (and_iff_right rfl).symm) rfl rfl

end SysmanState

end Settings

/-- What happens to the switch. -/
inductive SwitchEvent where
  /-- It is read. -/
  | read
  /-- It is switched on. -/
  | switchOn
  /-- A pass goes by it. -/
  | pass (vendor : Answers) (config : Configuration) (t : Topology)
  /-- A pass switches it on first. -/
  | switchedPass (vendor : Answers) (config : Configuration) (t : Topology)
  /-- It is assigned from outside. -/
  | assigned (v : Variable)

namespace SwitchEvent

/-- The switch after an event. -/
def leave (v : Variable) : SwitchEvent → Variable
  | read => v
  | switchOn => (SysmanState.switchOn v).2
  | pass _ _ _ => v
  | switchedPass vendor config t => (discoverSwitchedOn vendor config v t).2
  | assigned w => w

/-- The switch after some events, one after another. -/
def leaveAll (v : Variable) (events : List SwitchEvent) : Variable := events.foldl leave v

/-- Whether an event is an assignment. -/
def isAssigned : SwitchEvent → Bool
  | assigned _ => true
  | _ => false

/-- Whether an event asks for the switch to be set. A pass does not if it is told what the switch
stands for. -/
def asks : SwitchEvent → Bool
  | switchOn => true
  | switchedPass _ config _ => config.sysman.isNone
  | _ => false

private theorem leave_eq (v : Variable) {event : SwitchEvent} (h : event.isAssigned = false) :
    event.leave v = v.oneIf event.asks := by
  cases event with
  | read => rfl
  | switchOn => exact SysmanState.switchOn_snd v
  | pass vendor config t => rfl
  | switchedPass vendor config t =>
    rw [leave, discoverSwitchedOn, asks]
    cases config.sysman with
    | some state => rfl
    | none => exact SysmanState.switchOn_snd v
  | assigned w => cases h

/-- Events that are no assignments do what one of them does. -/
theorem leaveAll_eq (v : Variable) {events : List SwitchEvent}
    (h : ∀ event ∈ events, event.isAssigned = false) :
    leaveAll v events = v.oneIf (events.any asks) := by
  induction events generalizing v with
  | nil => rfl
  | cons event events ih =>
    obtain ⟨hevent, hevents⟩ := List.forall_mem_cons.mp h
    have hrest : leaveAll (event.leave v) events = (event.leave v).oneIf (events.any asks) :=
      ih _ hevents
    rw [leave_eq v hevent, Variable.oneIf_oneIf] at hrest
    rw [leaveAll, List.foldl_cons, leave_eq v hevent, List.any_cons]
    exact hrest

end SwitchEvent

/-- A state is what the switch stands for to all who look at it: who reads it, who switches it on,
and passes that are not told otherwise. -/
structure StandsFor (v : Variable) (state : SysmanState) : Prop where
  read : SysmanState.ofVariable v = state
  switchOn : (SysmanState.switchOn v).1 = state
  pass : ∀ vendor (config : Configuration) t, config.sysman = none →
    discoverDevices vendor config v t = runPass vendor config state ⟨config.memory, .unresolved⟩ t
  switchedPass : ∀ vendor (config : Configuration) t, config.sysman = none →
    (discoverSwitchedOn vendor config v t).1 = runPass vendor { config with sysman := some state }
      state ⟨config.memory, .unresolved⟩ t

/-- All see the same state. -/
theorem standsFor_ofVariable (v : Variable) : StandsFor v (.ofVariable v) where
  read := rfl
  switchOn := rfl
  pass vendor config t h := by
    rw [discoverDevices, continueDiscovery, Configuration.sysmanState, h]
    rfl
  switchedPass vendor config t h := by
    rw [discoverSwitchedOn, h]
    rfl

section Histories

open SwitchEvent

/-- Whatever happens to the switch, in whichever order, only an assignment changes a text that is in
it. Any other event changes the switch just if it asks for that and the switch is unset or garbled,
and then to one. So do any number of events without an assignment among them. At all times the
switch stands for the same to all who look at it, and may come too late just if it is unset or
garbled. -/
theorem text_in_switch_kept (v : Variable) (events : List SwitchEvent) :
    (∀ (k : Nat) event, events[k]? = some event → event.isAssigned = false →
      let before := leaveAll v (events.take k)
      let next := leaveAll v (events.take (k + 1))
      (next ≠ before ↔ event.asks = true ∧ (before = .unset ∨ before.IsGarbled)) ∧
        (next ≠ before → next = .ofText "1")) ∧
    ((∀ event ∈ events, event.isAssigned = false) →
      (leaveAll v events ≠ v ↔ events.any asks = true ∧ (v = .unset ∨ v.IsGarbled)) ∧
        (leaveAll v events ≠ v → leaveAll v events = .ofText "1")) ∧
    ∀ k, let now := leaveAll v (events.take k)
      ∃ state, StandsFor now state ∧ (state = .maybeLate ↔ now = .unset ∨ now.IsGarbled) := by
  refine ⟨fun k event hk hevent ↦ ?_, fun hevents ↦ ?_, fun k ↦ ?_⟩
  · intro before next
    have hnext : next = before.oneIf event.asks := by
      rw [← leave_eq before hevent]
      change leaveAll v (events.take (k + 1)) = _
      rw [List.take_add_one, hk, leaveAll, List.foldl_append]
      rfl
    rw [hnext]
    exact ⟨Variable.oneIf_ne_iff, Variable.oneIf_eq_of_ne⟩
  · rw [leaveAll_eq v hevents]
    exact ⟨Variable.oneIf_ne_iff, Variable.oneIf_eq_of_ne⟩
  · intro now
    refine ⟨_, standsFor_ofVariable now, ?_⟩
    rw [SysmanState.ofVariable_eq_maybeLate_iff, Variable.text?_eq_none_iff]

/-- A switch that was set, to bytes that start with a one but are no text, is taken for unset and
overwritten. -/
theorem garbled_switch_overwritten :
    let garbled := Variable.value [0x31, 0xFF]
    garbled ≠ .unset ∧ SysmanState.ofVariable garbled = .maybeLate ∧
    switchOn.leave garbled = .ofText "1" ∧
    (switchedPass cardVendor {} .bare).leave garbled = .ofText "1" ∧ garbled ≠ .ofText "1" := by
  intro garbled
  have htext : garbled.text? = none := by decide
  have hset : garbled.oneIf true = .ofText "1" := if_pos ⟨rfl, htext⟩
  refine ⟨by decide, SysmanState.ofVariable_eq_maybeLate_iff.mpr htext, ?_, ?_, by decide⟩
  · rw [leave_eq garbled rfl]
    exact hset
  · rw [leave_eq garbled rfl]
    exact hset

/-- A pass sets a switch that is unset to one, and a second one finds that there. A zero that is
assigned then is left alone by a third. -/
theorem assigned_zero_kept :
    let pass := switchedPass cardVendor {} .bare
    let events := [pass, pass, .assigned (.ofText "0"), pass]
    leaveAll .unset (events.take 1) = .ofText "1" ∧ leaveAll .unset (events.take 2) = .ofText "1" ∧
    leaveAll .unset events = .ofText "0" := by
  intro pass events
  obtain ⟨hsteps, -, -⟩ := text_in_switch_kept .unset events
  have hone : ¬(Variable.ofText "1" = .unset ∨ (Variable.ofText "1").IsGarbled) := by
    rw [← Variable.text?_eq_none_iff, Variable.text?_ofText]
    exact nofun
  have hzero : ¬(Variable.ofText "0" = .unset ∨ (Variable.ofText "0").IsGarbled) := by
    rw [← Variable.text?_eq_none_iff]
    decide
  obtain ⟨hfirst, hset⟩ := hsteps 0 pass rfl rfl
  have h1 : leaveAll .unset (events.take 1) = .ofText "1" := hset (hfirst.mpr ⟨rfl, .inl rfl⟩)
  have h2 : leaveAll .unset (events.take 2) = leaveAll .unset (events.take 1) := by
    by_contra hne
    have hbefore := ((hsteps 1 pass rfl rfl).1.mp hne).2
    rw [h1] at hbefore
    exact hone hbefore
  have h4 : leaveAll .unset (events.take 4) = .ofText "0" := by
    by_contra hne
    exact hzero ((hsteps 3 pass rfl rfl).1.mp hne).2
  exact ⟨h1, h2.trans h1, h4⟩

end Histories

/-- A pass in which nothing happens, and of which nothing comes. -/
structure Pass.IsIdle (pass : Pass) (t : Topology) : Prop where
  queries : pass.queries = []
  report : ∀ config, pass.report config = ⟨[], []⟩
  log : ∀ config, pass.log config = []
  topology : pass.value.topology = t

/-- A pass is idle if no operating-system devices are to be kept. -/
theorem isIdle_runPass {t : Topology} (h : t.retentions.get .osDevice = .keepNone)
    (vendor : Answers) (config : Configuration) (switch : SysmanState) (choice : MemoryChoice) :
    Pass.IsIdle (runPass vendor config switch choice t) t := by
  have hpass : runPass vendor config switch choice t = pure { topology := t, choice } := if_pos h
  rw [hpass]
  exact ⟨rfl, fun _ ↦ rfl, fun _ ↦ rfl, rfl⟩

/-- On a topology that keeps no operating-system devices passes are idle, in whichever way they are
started. One that goes by the switch leaves it alone. One that switches it on first does so even
here, just if it is not told what the switch stands for and that is unset or garbled. -/
theorem passes_idle_of_keepNone {t : Topology} (h : t.retentions.get .osDevice = .keepNone)
    (vendor : Answers) (config : Configuration) (v : Variable) :
    (discoverDevices vendor config v t).IsIdle t ∧
    (discoverSwitchedOn vendor config v t).1.IsIdle t ∧
    (SwitchEvent.pass vendor config t).leave v = v ∧
    let next := (SwitchEvent.switchedPass vendor config t).leave v
    (next ≠ v ↔ config.sysman = none ∧ (v = .unset ∨ v.IsGarbled)) ∧
      (next ≠ v → next = .ofText "1") := by
  refine ⟨isIdle_runPass h .., ?_, rfl, ?_⟩
  · rw [discoverSwitchedOn]
    split
    · exact isIdle_runPass h ..
    · exact isIdle_runPass h ..
  · intro next
    have hnext : next = v.oneIf config.sysman.isNone := SwitchEvent.leave_eq v rfl
    rw [hnext, ← Option.isNone_iff_eq_none]
    exact ⟨Variable.oneIf_ne_iff, Variable.oneIf_eq_of_ne⟩

/-- A machine that keeps no operating-system devices. -/
def plainMachine : Topology := .setRetention .bare .osDevice .keepNone

/-- A pass over the card's vendor sets the switch, though no device is to be kept. -/
theorem plain_machine_switch_set :
    plainMachine.retentions.get .osDevice = .keepNone ∧
    (SwitchEvent.switchedPass cardVendor {} plainMachine).leave .unset = .ofText "1" ∧
    Variable.ofText "1" ≠ .unset :=
  ⟨rfl, SwitchEvent.leave_eq .unset rfl, nofun⟩

/-- Passes over the card's vendor are idle on that machine, and leave alone a switch that is
zero. -/
theorem plain_machine_passes_idle :
    plainMachine.retentions.get .osDevice = .keepNone ∧
    (discoverDevices cardVendor {} .unset plainMachine).IsIdle plainMachine ∧
    (discoverSwitchedOn cardVendor {} .unset plainMachine).1.IsIdle plainMachine ∧
    (SwitchEvent.switchedPass cardVendor {} plainMachine).leave (.ofText "0") = .ofText "0" := by
  have hkept : plainMachine.retentions.get .osDevice = .keepNone := rfl
  obtain ⟨hplain, hswitched, -⟩ := passes_idle_of_keepNone hkept cardVendor {} .unset
  obtain ⟨-, -, -, hzero, -⟩ := passes_idle_of_keepNone hkept cardVendor {} (.ofText "0")
  refine ⟨hkept, hplain, hswitched, by_contra fun hne ↦ ?_⟩
  have hnone := Variable.text?_eq_none_iff.mpr (hzero.mp hne).2
  exact absurd hnone (by decide)

end AcceleratorTopology
