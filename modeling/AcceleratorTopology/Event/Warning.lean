/-!
# Warnings

A warning has a kind and a text. A warning raised once only is dropped if one of its kind has
been recorded before.
-/

namespace AcceleratorTopology

/-- What a warning is about. -/
inductive WarningKind where
  /-- The interface does not start. -/
  | runtimeInit
  /-- A device has a type without a meaning. -/
  | unexpectedDeviceType
  /-- The management interface does not answer. -/
  | sysmanUnavailable
  /-- A memory module is said to be on a subdevice that was not listed. -/
  | subdeviceAttribution
  deriving DecidableEq, Repr

/-- A recorded warning. -/
structure Warning where
  kind : WarningKind
  message : String
  deriving DecidableEq, Repr

/-- A warning as it is raised. -/
structure Raised where
  warning : Warning
  /-- Whether it is dropped if its kind has been recorded before. -/
  onceOnly : Bool
  deriving DecidableEq, Repr

/-- The warnings of a discovery so far. -/
structure Warnings where
  /-- Whether warnings are kept out of the log. -/
  hidden : Bool := false
  /-- The kinds recorded so far. -/
  kinds : List WarningKind := []
  /-- The warnings recorded so far, in order. -/
  recorded : List Warning := []
  deriving DecidableEq, Repr

namespace Warnings

/-- Whether a warning of a kind has been recorded. -/
def has (ws : Warnings) (kind : WarningKind) : Bool := ws.kinds.contains kind

/-- Records a warning. -/
def record (ws : Warnings) (w : Warning) : Warnings :=
  { ws with
    kinds := if ws.has w.kind then ws.kinds else w.kind :: ws.kinds
    recorded := ws.recorded ++ [w] }

/-- Whether a raised warning is recorded. -/
def accepts (ws : Warnings) (r : Raised) : Bool := !(r.onceOnly && ws.has r.warning.kind)

/-- Records a raised warning unless it is to be dropped. -/
def raise (ws : Warnings) (r : Raised) : Warnings :=
  if ws.accepts r then ws.record r.warning else ws

/-- Records raised warnings in order. -/
def raiseAll (ws : Warnings) (rs : List Raised) : Warnings := rs.foldl raise ws

/-- A recorded warning is there at the end. -/
@[simp] theorem recorded_record (ws : Warnings) (w : Warning) :
    (ws.record w).recorded = ws.recorded ++ [w] := rfl

/-- Recording a warning adds its kind and no other. -/
theorem has_record (ws : Warnings) (w : Warning) (kind : WarningKind) :
    (ws.record w).has kind = (kind == w.kind || ws.has kind) := by
  unfold record has
  by_cases h : ws.kinds.contains w.kind <;> by_cases hk : kind = w.kind <;> simp_all

end Warnings

end AcceleratorTopology
