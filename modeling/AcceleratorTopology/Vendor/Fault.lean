import AcceleratorTopology.Vendor.ResultCode

/-!
# Faults

The ways in which a query can fail, and the text of each.
-/

namespace AcceleratorTopology.Vendor

/-- Why a query has no answer. -/
inductive Fault where
  /-- An entry point was called and returned something other than success. -/
  | call (entry : String) (code : ResultCode)
  /-- The library has no such entry point. -/
  | missingEntry (entry : String)
  /-- The library at a path cannot be opened. -/
  | unloadable (path : String) (reason : String)
  /-- The operating system refused. -/
  | system (reason : String)
  deriving DecidableEq, Repr

namespace Fault

/-- The text that reports a fault. -/
def message : Fault → String
  | call entry code => s!"Level Zero call {entry} failed: {code.text}"
  | missingEntry entry => s!"Missing Level Zero entry point: {entry}"
  | unloadable path reason => s!"Failed to load Level Zero loader {path}: {reason}"
  | system reason => s!"I/O Error: {reason}"

/-- The code that a failed call returned. -/
def code? : Fault → Option ResultCode
  | call _ code => some code
  | _ => none

end Fault

/-- A call that returned `code`: nothing to report if it succeeded. -/
def checked (entry : String) (code : ResultCode) : Except Fault Unit :=
  if code.isSuccess then .ok () else .error (.call entry code)

/-- A call that succeeded has nothing to report. -/
theorem checked_success (entry : String) : checked entry .success = .ok () := rfl

/-- A call that failed is reported with its code. -/
theorem checked_of_ne {code : ResultCode} (h : code ≠ .success) (entry : String) :
    checked entry code = .error (.call entry code) := by
  rw [checked, if_neg]
  exact fun hsuccess ↦ h (beq_iff_eq.mp hsuccess)

end AcceleratorTopology.Vendor
