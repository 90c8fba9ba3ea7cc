import AcceleratorTopology.Text.Numeral

/-!
# The preferred source of memory sizes
-/

namespace AcceleratorTopology.Settings

/-- Where memory sizes should be read. -/
inductive MemoryPreference where
  /-- The management interface if it works on the first device, else the core interface. -/
  | auto
  /-- The management interface. -/
  | sysman
  /-- The core interface, without the DDR that an integrated device shares with the host. -/
  | core
  /-- The core interface, with all DDR. -/
  | coreWithDdr
  deriving DecidableEq, Repr

/-- The preference that a text stands for: `-1` for automatic, `1` for the core interface, `2` or
more for the core interface with all DDR, anything else for the management interface. -/
def MemoryPreference.ofText (s : String) : MemoryPreference :=
  let n := Text.leadingInteger s
  if n = -1 then auto
  else if n = 1 then core
  else if 2 ≤ n then coreWithDdr
  else sysman

end AcceleratorTopology.Settings
