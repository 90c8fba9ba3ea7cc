import AcceleratorTopology.Event.Log
import Mathlib.Data.List.Basic

/-!
# Views of events

What can be told of some events by one who does not see all of them. Notes are of no consequence:
without them it is still known which queries were put and which warnings were raised.
-/

namespace AcceleratorTopology.Event

open Vendor

/-- An event that is no note. -/
def noNote? : Event → Option Event
  | note _ => none
  | e => some e

/-- A view that shows warnings as they are is enough to tell which were raised. -/
theorem raisedWarnings_congr {view : Event → Option Event}
    (hv : ∀ e, (view e).bind raised? = raised? e) {first second : List Event}
    (h : first.filterMap view = second.filterMap view) :
    raisedWarnings first = raisedWarnings second := by
  have hr (events : List Event) :
      raisedWarnings events = (events.filterMap view).filterMap raised? := by
    rw [raisedWarnings, List.filterMap_filterMap]
    exact congrArg (List.filterMap · events) (funext fun e ↦ (hv e).symm)
  rw [hr, hr, h]

/-- A view that shows queries as they are is enough to tell which were put. -/
theorem queries_congr {view : Event → Option Event}
    (hv : ∀ e, (view e).bind query? = query? e) {first second : List Event}
    (h : first.filterMap view = second.filterMap view) : queries first = queries second := by
  have hq (events : List Event) : queries events = (events.filterMap view).filterMap query? := by
    rw [queries, List.filterMap_filterMap]
    exact congrArg (List.filterMap · events) (funext fun e ↦ (hv e).symm)
  rw [hq, hq, h]

/-- A view that shows some queries as they are is enough to tell which of them were put. -/
theorem filter_queries_congr {view : Event → Option Event} {test : Query → Bool}
    (hv : ∀ e, ((view e).bind query?).filter test = (query? e).filter test)
    {first second : List Event} (h : first.filterMap view = second.filterMap view) :
    (queries first).filter test = (queries second).filter test := by
  have hq (events : List Event) :
      (queries events).filter test =
        (events.filterMap view).filterMap fun e ↦ (query? e).filter test := by
    rw [queries, List.filter_filterMap, List.filterMap_filterMap]
    refine congrArg (List.filterMap · events) (funext fun e ↦ ?_)
    rw [← hv e]
    cases view e <;> rfl
  rw [hq, hq, h]

/-- Warnings are no notes. -/
theorem noNote?_bind_raised? (e : Event) : (noNote? e).bind raised? = raised? e := by
  cases e <;> rfl

private theorem noNote?_bind_query? (e : Event) : (noNote? e).bind query? = query? e := by
  cases e <;> rfl

/-- What is put is known without the notes. -/
theorem queries_congr_of_noNote? {first second : List Event}
    (h : first.filterMap noNote? = second.filterMap noNote?) : queries first = queries second :=
  queries_congr noNote?_bind_query? h

end AcceleratorTopology.Event

namespace AcceleratorTopology

/-- Whether a log line is a warning. -/
def LogLine.isWarning : LogLine → Bool
  | warning _ => true
  | note _ => false

/-- Notes apart, an onlooker sees the same of events that are the same without their notes. -/
theorem Warnings.observe_noNote? (ws : Warnings) (events : List Event) :
    (ws.observe events).2.filter LogLine.isWarning =
      (ws.observe (events.filterMap Event.noNote?)).2.filter LogLine.isWarning := by
  induction events generalizing ws with
  | nil => rfl
  | cons e events ih =>
    cases e with
    | query q => exact ih ws
    | note text => exact ih ws
    | raised r =>
      have hlines (l l' : List LogLine) (h : l.filter LogLine.isWarning =
          l'.filter LogLine.isWarning) :
          ((ws.logLine? (.raised r)).toList ++ l).filter LogLine.isWarning =
            ((ws.logLine? (.raised r)).toList ++ l').filter LogLine.isWarning := by
        rw [List.filter_append, List.filter_append, h]
      exact hlines _ _ (ih (ws.raise r))

end AcceleratorTopology
