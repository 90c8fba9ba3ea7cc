import AcceleratorTopology.Proofs.Events

/-!
# Recorded and shown

A warning is shown in the log when it is recorded, unless the record is hidden. Whether it is hidden
makes no difference to what is recorded, nor to the notes in the log.
-/

namespace AcceleratorTopology

/-- The text of a log line that is a warning. -/
def LogLine.warning? : LogLine → Option String
  | warning text => some text
  | note _ => none

namespace Warnings

variable (ws : Warnings)

/-- The same record, hidden or not. -/
def hide (hidden : Bool) : Warnings := { ws with hidden }

/-- What happens to a record does not depend on whether it is hidden. -/
theorem after_hide (hidden : Bool) (e : Event) :
    (ws.hide hidden).after e = (ws.after e).hide hidden := by
  cases e with
  | query q => rfl
  | note text => rfl
  | raised r =>
    have haccepts : (ws.hide hidden).accepts r = ws.accepts r := rfl
    rw [after, after, raise, raise, haccepts]
    cases ws.accepts r <;> rfl

/-- What is recorded of some events does not depend on whether the record is hidden. -/
theorem observe_hide_fst (hidden : Bool) (events : List Event) :
    ((ws.hide hidden).observe events).1 = (ws.observe events).1.hide hidden := by
  induction events generalizing ws with
  | nil => rfl
  | cons e events ih =>
    rw [observe, observe, after_hide]
    exact ih (ws.after e)

private theorem logLine?_hide (e : Event) :
    ((ws.hide true).logLine? e).toList =
      ((ws.hide false).logLine? e).toList.filter fun line ↦ !line.isWarning := by
  cases e with
  | query q => rfl
  | note text => rfl
  | raised r =>
    have haccepts (hidden : Bool) : (ws.hide hidden).accepts r = ws.accepts r := rfl
    simp only [logLine?, haccepts]
    cases ws.accepts r <;> rfl

/-- A hidden record shows of some events what it would show otherwise, but for warnings. -/
theorem observe_hide_snd (events : List Event) :
    ((ws.hide true).observe events).2 =
      ((ws.hide false).observe events).2.filter fun line ↦ !line.isWarning := by
  induction events generalizing ws with
  | nil => rfl
  | cons e events ih =>
    simp only [observe, after_hide, logLine?_hide, ih, List.filter_append]

private theorem messages_after (e : Event) :
    (ws.after e).recorded.map (·.message) =
      ws.recorded.map (·.message) ++
        ((ws.hide false).logLine? e).toList.filterMap LogLine.warning? := by
  cases e with
  | query q => exact (List.append_nil _).symm
  | note text => exact (List.append_nil _).symm
  | raised r =>
    have haccepts : (ws.hide false).accepts r = ws.accepts r := rfl
    rw [after, raise, logLine?, haccepts]
    cases ws.accepts r with
    | true => exact List.map_append
    | false => exact (List.append_nil _).symm

/-- A record that is not hidden shows the warnings that it records, in order. -/
theorem messages_observe (events : List Event) :
    ((ws.hide false).observe events).1.recorded.map (·.message) =
      ws.recorded.map (·.message) ++
        ((ws.hide false).observe events).2.filterMap LogLine.warning? := by
  induction events generalizing ws with
  | nil => exact (List.append_nil _).symm
  | cons e events ih =>
    rw [observe, after_hide, ih (ws.after e), messages_after, List.filterMap_append,
      List.append_assoc]

end Warnings

end AcceleratorTopology
