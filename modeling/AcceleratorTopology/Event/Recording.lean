import AcceleratorTopology.Event.Log

/-!
# Recording in place

Warnings are recorded in a record that changes under the eyes of an onlooker. A call raises a
warning: in any case, or once only, and then it is told whether the warning was recorded.
-/

namespace AcceleratorTopology

/-- Work on a record of warnings, of which an onlooker sees the log. -/
abbrev Recording := StateT Warnings (Traced LogLine)

/-- What a call is told whose warning was recorded or not. -/
def Raised.answer (r : Raised) (isRecorded : Bool) : Option Bool :=
  if r.onceOnly then some isRecorded else none

namespace Recording

/-- What work comes to and the record that it leaves, with what an onlooker saw on the way. -/
def on {α : Type} (work : Recording α) (ws : Warnings) : Traced LogLine (α × Warnings) :=
  work.run ws

/-- Records a warning, and shows it unless the record is hidden. -/
def warn (w : Warning) : Recording Unit := do
  let ws ← get
  Traced.emitIf (!ws.hidden) (LogLine.warning w.message)
  set (ws.record w)

/-- Records a warning unless one of its kind has been recorded; tells whether it did. -/
def warnOnce (w : Warning) : Recording Bool := do
  let ws ← get
  if ws.has w.kind then
    return false
  warn w
  return true

/-- Raises a warning in the way in which it asks to be. -/
def raise (r : Raised) : Recording (Option Bool) := do
  if r.onceOnly then
    return some (← warnOnce r.warning)
  warn r.warning
  return none

/-- Raises warnings in order. -/
def raiseAll (calls : List Raised) : Recording (List (Option Bool)) := calls.mapM raise

section On

variable {α β : Type} (ws : Warnings)

/-- Further work goes on from what is there, on the record that is left. -/
theorem on_bind (work : Recording α) (next : α → Recording β) :
    (work >>= next).on ws = work.on ws >>= fun left ↦ (next left.1).on left.2 := rfl

/-- A warning is recorded and shown as one that is raised in any case. -/
theorem on_warn (w : Warning) :
    (warn w).on ws = ⟨(ws.logLine? (.raised ⟨w, false⟩)).toList, ((), ws.raise ⟨w, false⟩)⟩ := by
  apply Traced.ext
  · change ((if !ws.hidden then [LogLine.warning w.message] else []) ++ []) ++ [] = _
    rw [Warnings.logLine?]
    cases ws.hidden <;> rfl
  · rfl

/-- A warning is recorded and shown as one that is raised once only. -/
theorem on_warnOnce (w : Warning) :
    (warnOnce w).on ws = ⟨(ws.logLine? (.raised ⟨w, true⟩)).toList,
      (ws.accepts ⟨w, true⟩, ws.raise ⟨w, true⟩)⟩ := by
  have hcases : (warnOnce w).on ws =
      (if ws.has w.kind then pure false else warn w >>= fun _ ↦ pure true : Recording Bool).on ws :=
    rfl
  have haccepts : ws.accepts ⟨w, true⟩ = !ws.has w.kind := rfl
  rw [hcases, Warnings.logLine?, Warnings.raise, haccepts]
  cases ws.has w.kind with
  | true => exact Traced.ext rfl rfl
  | false =>
    rw [if_neg Bool.false_ne_true, on_bind, on_warn]
    exact Traced.ext (List.append_nil _) rfl

/-- A call changes the record, and shows its warning, as the event of raising it; it is told whether
the record accepts the warning. -/
theorem on_raise (r : Raised) :
    (raise r).on ws =
      ⟨(ws.logLine? (.raised r)).toList, (r.answer (ws.accepts r), ws.raise r)⟩ := by
  obtain ⟨w, onceOnly⟩ := r
  cases onceOnly with
  | false =>
    change ((warn w).on ws >>= fun left ↦ pure (none, left.2)) = _
    rw [on_warn]
    exact Traced.ext (List.append_nil _) rfl
  | true =>
    change ((warnOnce w).on ws >>= fun left ↦ pure (some left.1, left.2)) = _
    rw [on_warnOnce]
    exact Traced.ext (List.append_nil _) rfl

end On

end Recording

end AcceleratorTopology
