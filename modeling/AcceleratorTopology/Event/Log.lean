import AcceleratorTopology.Event.Warning
import AcceleratorTopology.Traced
import AcceleratorTopology.Vendor.Query

/-!
# Events and the log

What happens while devices are described: queries go to the vendor, notes are taken for the
curious, and warnings are raised. The log is what an onlooker sees of it: every note, and those
raised warnings that are recorded and not hidden.
-/

namespace AcceleratorTopology

open Vendor

/-- Something that happens while devices are described. -/
inductive Event where
  /-- A query goes to the vendor. -/
  | query (q : Query)
  /-- A note of no consequence. -/
  | note (text : String)
  /-- A warning is raised. -/
  | raised (r : Raised)
  deriving DecidableEq, Repr

namespace Event

/-- The query of an event. -/
def query? : Event → Option Query
  | query q => some q
  | _ => none

/-- The raised warning of an event. -/
def raised? : Event → Option Raised
  | raised r => some r
  | _ => none

/-- The queries among some events, in order. -/
def queries (events : List Event) : List Query := events.filterMap query?

/-- The raised warnings among some events, in order. -/
def raisedWarnings (events : List Event) : List Raised := events.filterMap raised?

/-- Later events have later queries. -/
@[simp] theorem queries_append (first second : List Event) :
    queries (first ++ second) = queries first ++ queries second := List.filterMap_append

end Event

/-- What an onlooker sees. -/
inductive LogLine where
  | warning (text : String)
  | note (text : String)
  deriving DecidableEq, Repr

namespace Warnings

/-- The log line of an event, if there is one. -/
def logLine? (ws : Warnings) : Event → Option LogLine
  | .query _ => none
  | .note text => some (.note text)
  | .raised r =>
    if ws.accepts r && !ws.hidden then some (.warning r.warning.message) else none

/-- The warnings after an event. -/
def after (ws : Warnings) : Event → Warnings
  | .raised r => ws.raise r
  | _ => ws

/-- The warnings after some events, and what an onlooker saw of these. -/
def observe (ws : Warnings) : List Event → Warnings × List LogLine
  | [] => (ws, [])
  | e :: events =>
    let rest := (ws.after e).observe events
    (rest.1, (ws.logLine? e).toList ++ rest.2)

/-- Observing events records the warnings that they raise. -/
theorem observe_fst (ws : Warnings) (events : List Event) :
    (ws.observe events).1 = ws.raiseAll (Event.raisedWarnings events) := by
  induction events generalizing ws with
  | nil => rfl
  | cons e events ih =>
    cases e <;>
      simp [observe, ih, after, Event.raisedWarnings, Event.raised?, raiseAll, List.filterMap_cons]

end Warnings

/-- A value arrived at by way of events. -/
abbrev Described := Traced Event

/-- Puts a query to the vendor. -/
def ask (vendor : Answers) (q : Query) : Described (Except Fault q.Answer) :=
  ⟨[.query q], vendor q⟩

/-- Takes a note. -/
def takeNote (text : String) : Described Unit := Traced.emit (.note text)

/-- Raises a warning. -/
def raiseWarning (kind : WarningKind) (onceOnly : Bool) (message : String) : Described Unit :=
  Traced.emit (.raised ⟨⟨kind, message⟩, onceOnly⟩)

/-- A query leaves one event. -/
@[simp] theorem events_ask (vendor : Answers) (q : Query) :
    (ask vendor q).events = [.query q] := rfl

/-- A query gives the vendor's answer. -/
@[simp] theorem value_ask (vendor : Answers) (q : Query) : (ask vendor q).value = vendor q := rfl

/-- A note leaves one event. -/
@[simp] theorem events_takeNote (text : String) : (takeNote text).events = [.note text] := rfl

/-- A warning leaves one event. -/
@[simp] theorem events_raiseWarning (kind : WarningKind) (onceOnly : Bool) (message : String) :
    (raiseWarning kind onceOnly message).events = [.raised ⟨⟨kind, message⟩, onceOnly⟩] :=
  rfl

end AcceleratorTopology
