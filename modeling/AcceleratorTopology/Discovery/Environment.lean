import AcceleratorTopology.Discovery.Basic

/-!
# Discovery in an environment

The ways to start a pass. `discoverDevices` reads the management interface's switch and leaves it
alone; `discoverSwitchedOn` sets it first where it is not set. Either chooses the source of memory
sizes afresh; `continueDiscovery` goes on with an earlier choice.
-/

namespace AcceleratorTopology

open Vendor Settings

/-- A pass that goes on with a choice of memory source. -/
def continueDiscovery (vendor : Answers) (config : Configuration) (switch : Variable)
    (choice : MemoryChoice) (t : Topology) : Pass :=
  runPass vendor config (config.sysmanState switch) choice t

/-- A pass with a fresh choice of memory source. -/
def discoverDevices (vendor : Answers) (config : Configuration) (switch : Variable) (t : Topology) :
    Pass :=
  continueDiscovery vendor config switch ⟨config.memory, .unresolved⟩ t

/-- A pass that first sets the switch where it is not set to text and the configuration does not
say what it stands for; with the switch afterwards. -/
def discoverSwitchedOn (vendor : Answers) (config : Configuration) (switch : Variable)
    (t : Topology) : Pass × Variable :=
  match config.sysman with
  | some _ => (discoverDevices vendor config switch t, switch)
  | none =>
    let switched := SysmanState.switchOn switch
    (discoverDevices vendor { config with sysman := some switched.1 } switch t, switched.2)

end AcceleratorTopology
