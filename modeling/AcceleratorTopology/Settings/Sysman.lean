import AcceleratorTopology.Settings.Variable
import AcceleratorTopology.Text.Numeral

/-!
# The management interface's switch

The vendor's library brings up its management interface (Sysman) only if `ZES_ENABLE_SYSMAN` is
set to a non-zero number when the interface starts. This module reads the variable, and sets it
where it is not set.
-/

namespace AcceleratorTopology.Settings

/-- What the variable `ZES_ENABLE_SYSMAN` says. -/
inductive SysmanState where
  /-- Set to a number other than zero. -/
  | enabled
  /-- Not set to text, so that setting it now may be too late. -/
  | maybeLate
  /-- Set to zero, or to no number. -/
  | disabled
  deriving DecidableEq, Repr

namespace SysmanState

/-- What a value of the variable says. -/
def ofText : Option String → SysmanState
  | none => maybeLate
  | some s => if Text.leadingInteger s = 0 then disabled else enabled

/-- What the variable says now. -/
def ofVariable (switch : Variable) : SysmanState := ofText switch.text?

/-- What the variable says, and the variable after it has been set to one where it was not set
to text. -/
def switchOn (switch : Variable) : SysmanState × Variable :=
  let state := ofVariable switch
  (state, if state = maybeLate then .ofText "1" else switch)

end SysmanState

end AcceleratorTopology.Settings
