import AcceleratorTopology.Settings.MemoryPreference
import AcceleratorTopology.Settings.Sysman

/-!
# Configuration

What a caller may choose about a discovery, and the choices that the environment makes.
-/

namespace AcceleratorTopology.Settings

/-- The choices of a discovery. -/
structure Configuration where
  memory : MemoryPreference := .auto
  hideErrors : Bool := false
  /-- What device names start with. -/
  namePrefix : String := "ze"
  /-- The state of the management interface's switch, read from the environment if not given. -/
  sysman : Option SysmanState := none
  deriving DecidableEq, Repr

namespace Configuration

/-- The defaults as changed by two variables: `ZE_TOPO_COREAPI_MEMORY` sets the preferred source
of memory sizes, and a non-zero number in `ZE_TOPO_HIDE_ERRORS` hides errors. -/
def ofEnvironment (memory hideErrors : Variable) : Configuration where
  memory := (memory.text?.map MemoryPreference.ofText).getD .auto
  hideErrors := hideErrors.text?.any fun s ↦ Text.leadingInteger s != 0

/-- The state of the switch that a discovery goes by. -/
def sysmanState (config : Configuration) (switch : Variable) : SysmanState :=
  config.sysman.getD (.ofVariable switch)

end Configuration

end AcceleratorTopology.Settings
