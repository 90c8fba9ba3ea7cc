import AcceleratorTopology.Proofs.Device.Wording
import AcceleratorTopology.Proofs.Discovery.Switch
import AcceleratorTopology.Proofs.Discovery.Warnings
import AcceleratorTopology.Proofs.Emission

/-!
# Settings without consequences

Of its configuration a pass reads the prefix of names and nothing else: the preferred source of
memory sizes and the state of the switch are handed to it, and whether errors are hidden matters to
those who look on. What the switch stands for is carried all the way to every device, and yet words
one warning only.
-/

namespace AcceleratorTopology

open Vendor Settings

section Prefix

variable {config config' : Configuration} (h : config.namePrefix = config'.namePrefix)
include h

private theorem draftDevice_of_namePrefix (vendor : Answers) (switch : SysmanState)
    (choice : MemoryChoice) (listing : Listing) :
    draftDevice vendor config switch choice listing =
      draftDevice vendor config' switch choice listing := by
  have hsheet : wholeSheet config listing = wholeSheet config' listing := by
    rw [wholeSheet, wholeSheet, h]
  rw [draftDevice, draftDevice, hsheet]

private theorem discoverDriver_of_namePrefix (vendor : Answers) (switch : SysmanState) :
    discoverDriver vendor config switch = discoverDriver vendor config' switch := by
  have hdevice : discoverDevice vendor config switch = discoverDevice vendor config' switch := by
    funext driver p numbered
    rw [discoverDevice, discoverDevice, draftDevice_of_namePrefix h]
  funext p numbered
  rw [discoverDriver, discoverDriver, hdevice]

/-- A pass goes by the prefix only. -/
theorem runPass_of_namePrefix (vendor : Answers) (switch : SysmanState) (choice : MemoryChoice)
    (t : Topology) :
    runPass vendor config switch choice t = runPass vendor config' switch choice t := by
  rw [runPass, runPass, discoverDriver_of_namePrefix h]

end Prefix

private theorem discoverSwitchedOn_fst (vendor : Answers) (config : Configuration) (v : Variable)
    (t : Topology) :
    (discoverSwitchedOn vendor config v t).1 = discoverDevices vendor config v t := by
  cases h : config.sysman with
  | some state => rw [discoverSwitchedOn, h]
  | none =>
    rw [(standsFor_ofVariable v).switchedPass vendor config t h,
      (standsFor_ofVariable v).pass vendor config t h]
    -- The state that was read first is handed on in the configuration, which has the same prefix.
    exact runPass_of_namePrefix rfl vendor _ _ t

section Hiding

/-- Two passes, the first with its errors shown and the second with them hidden, of which all but
the log is the same. The log of the first shows the recorded warnings, in order. That of the second
is without them, and otherwise the same. -/
structure HidesLogOnly (shown hidden : Configuration) (pass pass' : Pass) : Prop where
  value : pass'.value = pass.value
  report : pass'.report hidden = pass.report shown
  queries : pass'.queries = pass.queries
  log_shown :
    (pass.log shown).filterMap LogLine.warning? = (pass.report shown).warnings.map (·.message)
  log_hidden : (pass'.log hidden).filterMap LogLine.warning? = []
  notes : pass'.log hidden = (pass.log shown).filter fun line ↦ !line.isWarning

private theorem filterMap_warning?_filter (lines : List LogLine) :
    (lines.filter fun line ↦ !line.isWarning).filterMap LogLine.warning? = [] := by
  rw [List.filterMap_eq_nil_iff]
  intro line hline
  cases line with
  | warning text => cases (List.mem_filter.mp hline).2
  | note text => rfl

/-- It is a matter of looking on whether errors are hidden. -/
theorem Pass.hidesLogOnly (pass : Pass) {shown hidden : Configuration}
    (hshown : shown.hideErrors = false) (hhidden : hidden.hideErrors = true) :
    HidesLogOnly shown hidden pass pass := by
  let start : Warnings := {}
  have hobserved : pass.observed shown = (start.hide false).observe pass.events := by
    rw [observed, hshown]
    rfl
  have hobserved' : pass.observed hidden = (start.hide true).observe pass.events := by
    rw [observed, hhidden]
    rfl
  have hrecorded : (pass.observed hidden).1.recorded = (pass.observed shown).1.recorded := by
    rw [hobserved, hobserved', Warnings.observe_hide_fst, Warnings.observe_hide_fst]
    rfl
  have hnotes : pass.log hidden = (pass.log shown).filter fun line ↦ !line.isWarning := by
    rw [log, log, hobserved, hobserved']
    exact start.observe_hide_snd pass.events
  constructor
  case value => rfl
  case report => rw [report, report, hrecorded]
  case queries => rfl
  case log_shown =>
    rw [log, report, hobserved]
    exact (start.messages_observe pass.events).symm
  case log_hidden => rw [hnotes, filterMap_warning?_filter]
  case notes => exact hnotes

/-- Whether errors are hidden matters to the log only, in whichever way a pass is started: the
outcome, the report and the queries are the same. If errors are not hidden, the warnings in the log
are exactly those of the report, in the same order; if they are, there are none. -/
theorem hiding_hides_log_only (vendor : Answers) (config : Configuration) (v : Variable)
    (choice : MemoryChoice) (t : Topology) :
    let shown := { config with hideErrors := false }
    let hidden := { config with hideErrors := true }
    HidesLogOnly shown hidden (continueDiscovery vendor shown v choice t)
        (continueDiscovery vendor hidden v choice t) ∧
      HidesLogOnly shown hidden (discoverDevices vendor shown v t)
        (discoverDevices vendor hidden v t) ∧
      HidesLogOnly shown hidden (discoverSwitchedOn vendor shown v t).1
        (discoverSwitchedOn vendor hidden v t).1 := by
  intro shown hidden
  have hpass (choice : MemoryChoice) : continueDiscovery vendor hidden v choice t =
      continueDiscovery vendor shown v choice t := runPass_of_namePrefix rfl vendor _ choice t
  have hfresh : discoverDevices vendor hidden v t = discoverDevices vendor shown v t := hpass _
  rw [discoverSwitchedOn_fst, discoverSwitchedOn_fst, hfresh, hpass]
  exact ⟨Pass.hidesLogOnly _ rfl rfl, Pass.hidesLogOnly _ rfl rfl, Pass.hidesLogOnly _ rfl rfl⟩

end Hiding

section Switch

variable (vendor : Answers) (config : Configuration) (switch switch' : SysmanState)

private theorem visit_switch_alike (p : Progress) (v : Visit) :
    Traced.Alike Event.noIdentity? Eq (visit vendor config switch p v)
      (visit vendor config switch' p v) := by
  cases v with
  | driver number handle => exact Traced.Alike.refl _ rfl
  | device s =>
    rw [visit_device, visit_device]
    exact Traced.Alike.bind_eq (describe_switch_alike vendor switch switch' config p.choice _)
      (Traced.Alike.refl _ rfl)

/-- A pass does not depend on the switch. -/
theorem runPass_switch_alike (choice : MemoryChoice) (t : Topology) :
    Traced.Alike Event.noIdentity? Eq (runPass vendor config switch choice t)
      (runPass vendor config switch' choice t) := by
  rw [runPass_eq, runPass_eq]
  apply Traced.Alike.bind_same
  apply Traced.Alike.foldlM rfl
  rintro p _ v - rfl
  exact visit_switch_alike vendor config switch switch' p v

private theorem devicesWarnings_reads (choice : MemoryChoice) (devices : List DeviceHandle) :
    List.Forall₂ (Warning.Reads switch switch') (devicesWarnings vendor switch choice devices)
      (devicesWarnings vendor switch' choice devices) := by
  refine List.rel_flatMap (List.forall₂_same.mpr fun device _ ↦ rfl) ?_
  rintro device _ rfl
  exact deviceWarnings_reads _ device

private theorem passWarnings_reads (choice : MemoryChoice) :
    List.Forall₂ (Warning.Reads switch switch') (passWarnings vendor switch choice)
      (passWarnings vendor switch' choice) := by
  rw [passWarnings, passWarnings]
  cases vendor .init with
  | error fault => exact forall₂_reads_same (by simp)
  | ok _ => exact devicesWarnings_reads vendor switch switch' choice _

/-- Of the warnings that a pass reports only the one about identities depends on the switch. -/
theorem warnings_runPass_reads (choice : MemoryChoice) (t : Topology) {config' : Configuration} :
    List.Forall₂ (Warning.Reads switch switch')
      (Pass.report config (runPass vendor config switch choice t)).warnings
      (Pass.report config' (runPass vendor config' switch' choice t)).warnings := by
  by_cases hkeep : t.retentions.get .osDevice = .keepNone
  · rw [(isIdle_runPass hkeep vendor config switch choice).report,
      (isIdle_runPass hkeep vendor config' switch' choice).report]
    exact .nil
  · have hrecorded (config : Configuration) (switch : SysmanState) :
        (Pass.report config (runPass vendor config switch choice t)).warnings =
          withoutRepeats (passWarnings vendor switch choice) :=
      (warns_runPass vendor config switch choice hkeep).recorded_observe config.hideErrors
    rw [hrecorded, hrecorded]
    exact forall₂_withoutRepeats (fun _ _ ↦ Warning.Reads.kind_eq)
      (passWarnings_reads vendor switch switch' choice)

end Switch

/-- Two passes, told what the switch stands for or not, with the same outcome by way of the same
queries. Their warnings are the same one by one, but for the wording of one about an identity. -/
structure WordsWarningOnly (told told' : Configuration) (v v' : Variable) (pass pass' : Pass) :
    Prop where
  value : pass'.value = pass.value
  queries : pass'.queries = pass.queries
  warnings : List.Forall₂ (Warning.Reads (told.sysmanState v) (told'.sysmanState v'))
    (pass.report told).warnings (pass'.report told').warnings

/-- What the switch stands for words a warning and does nothing else, whether a pass is told or
reads it from the environment. Hence it makes no difference either whether a pass switches on
first. -/
theorem switch_words_warning_only (vendor : Answers) (config : Configuration)
    (given given' : Option SysmanState) (v v' : Variable) (choice : MemoryChoice) (t : Topology) :
    let told := { config with sysman := given }
    let told' := { config with sysman := given' }
    WordsWarningOnly told told' v v' (continueDiscovery vendor told v choice t)
        (continueDiscovery vendor told' v' choice t) ∧
      WordsWarningOnly told told' v v' (discoverDevices vendor told v t)
        (discoverDevices vendor told' v' t) ∧
      (discoverSwitchedOn vendor config v t).1 = discoverDevices vendor config v t := by
  intro told told'
  have hpasses (choice : MemoryChoice) : WordsWarningOnly told told' v v'
      (continueDiscovery vendor told v choice t) (continueDiscovery vendor told' v' choice t) := by
    have halike : Traced.Alike Event.noIdentity? Eq (continueDiscovery vendor told v choice t)
        (continueDiscovery vendor told' v' choice t) := by
      have hprefix : told'.namePrefix = told.namePrefix := rfl
      rw [continueDiscovery, continueDiscovery, runPass_of_namePrefix hprefix]
      exact runPass_switch_alike vendor told _ _ choice t
    constructor
    case value => exact halike.value.symm
    case queries => exact (Event.queries_congr Event.noIdentity?_bind_query? halike.events).symm
    case warnings => exact warnings_runPass_reads vendor told _ _ choice t
  exact ⟨hpasses choice, hpasses _, discoverSwitchedOn_fst vendor config v t⟩

end AcceleratorTopology
