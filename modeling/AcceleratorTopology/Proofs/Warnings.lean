import AcceleratorTopology.Event.Log
import Mathlib.Data.List.Basic

/-!
# The record of warnings

Some kinds of warnings are recorded once however often they are raised, all others every time. What
is recorded of some warnings is told without the list of kinds that is kept on the way, and which
warnings a computation raises is told step by step.
-/

namespace AcceleratorTopology

open Vendor

/-- Whether warnings of a kind are recorded only once. -/
def WarningKind.isOnce : WarningKind → Bool
  | unexpectedDeviceType | sysmanUnavailable => true
  | runtimeInit | subdeviceAttribution => false

/-- A warning as it is raised, going by its kind. -/
def Warning.raised (w : Warning) : Raised := ⟨w, w.kind.isOnce⟩

/-- Whether a warning repeats an earlier one of a kind that is recorded only once. -/
def Warning.repeats (earlier later : Warning) : Bool :=
  earlier.kind.isOnce && later.kind == earlier.kind

private theorem Warning.repeats_of_eq {earlier later : Warning} (h : later.kind = earlier.kind) :
    earlier.repeats later = earlier.kind.isOnce := by
  rw [repeats, h, beq_self_eq_true, Bool.and_true]

private theorem Warning.repeats_of_ne {earlier later : Warning} (h : later.kind ≠ earlier.kind) :
    earlier.repeats later = false := by
  rw [repeats, beq_false_of_ne h, Bool.and_false]

/-- Some warnings without those that repeat an earlier one. -/
def withoutRepeats : List Warning → List Warning
  | [] => []
  | w :: ws => w :: (withoutRepeats ws).filter fun later ↦ !w.repeats later

/-- Of a kind that is recorded only once the first warning is left, of all others each. -/
theorem filter_kind_withoutRepeats (kind : WarningKind) (ws : List Warning) :
    (withoutRepeats ws).filter (·.kind == kind) =
      if kind.isOnce then (ws.filter (·.kind == kind)).take 1
      else ws.filter (·.kind == kind) := by
  induction ws with
  | nil => simp only [withoutRepeats, List.filter_nil, List.take_nil, ite_self]
  | cons w ws ih =>
    rw [withoutRepeats, List.filter_cons, List.filter_cons, List.filter_filter]
    by_cases hkind : w.kind = kind
    · subst hkind
      have hrepeats (later : Warning) : (later.kind == w.kind && !w.repeats later) =
          (!w.kind.isOnce && later.kind == w.kind) := by
        rw [Warning.repeats]
        cases w.kind.isOnce <;> cases later.kind == w.kind <;> rfl
      simp only [hrepeats, beq_self_eq_true, if_true]
      cases honce : w.kind.isOnce with
      | true =>
        simp only [Bool.not_true, Bool.false_and, List.filter_false, if_true, List.take_succ_cons,
          List.take_zero]
      | false =>
        rw [honce] at ih
        simp only [Bool.not_false, Bool.true_and, Bool.false_eq_true, if_false] at ih ⊢
        rw [ih]
    · have hrepeats (later : Warning) : (later.kind == kind && !w.repeats later) =
          (later.kind == kind) := by
        by_cases hlater : later.kind = kind
        · rw [Warning.repeats_of_ne (hlater.trans_ne (Ne.symm hkind)), Bool.not_false,
            Bool.and_true]
        · rw [beq_false_of_ne hlater, Bool.false_and]
      simp only [hrepeats, beq_false_of_ne hkind, Bool.false_eq_true, if_false]
      exact ih

/-- Raising warnings records those that repeat neither one of them nor one that was recorded
before. -/
theorem recorded_raiseAll (ws : Warnings) (raised : List Warning) :
    (ws.raiseAll (raised.map Warning.raised)).recorded = ws.recorded ++
      (withoutRepeats raised).filter fun w ↦ !(w.kind.isOnce && ws.has w.kind) := by
  induction raised generalizing ws with
  | nil => exact (List.append_nil _).symm
  | cons w raised ih =>
    have hraise : ws.raiseAll ((w :: raised).map Warning.raised) =
        (ws.raise w.raised).raiseAll (raised.map Warning.raised) := rfl
    rw [hraise, ih, Warnings.raise, Warnings.accepts, withoutRepeats, List.filter_cons,
      List.filter_filter, Warning.raised]
    cases hdrop : w.kind.isOnce && ws.has w.kind with
    | true =>
      -- What repeats the dropped warning repeats the recorded one of its kind.
      have hrepeats (later : Warning) :
          (!(later.kind.isOnce && ws.has later.kind) && !w.repeats later) =
            !(later.kind.isOnce && ws.has later.kind) := by
        by_cases hkind : later.kind = w.kind
        · rw [hkind, hdrop, Bool.not_true, Bool.false_and]
        · rw [Warning.repeats_of_ne hkind, Bool.not_false, Bool.and_true]
      simp only [hrepeats, Bool.not_true, Bool.false_eq_true, if_false]
    | false =>
      have hrepeats (later : Warning) :
          (!(later.kind.isOnce && (ws.record w).has later.kind)) =
            (!(later.kind.isOnce && ws.has later.kind) && !w.repeats later) := by
        rw [Warnings.has_record]
        by_cases hkind : later.kind = w.kind
        · rw [Warning.repeats_of_eq hkind, hkind, hdrop, beq_self_eq_true, Bool.true_or,
            Bool.and_true, Bool.not_false, Bool.true_and]
        · rw [Warning.repeats_of_ne hkind, beq_false_of_ne hkind, Bool.false_or, Bool.not_false,
            Bool.and_true]
      simp only [hrepeats, Bool.not_false, if_true, Warnings.recorded_record, List.append_assoc,
        List.singleton_append]

/-- A computation raises these warnings, in this order. -/
def Warns {α : Type} (x : Described α) (ws : List Warning) : Prop :=
  Event.raisedWarnings x.events = ws.map Warning.raised

section Warns

variable {α β : Type} {ws ws' : List Warning}

/-- A pure value raises no warning. -/
theorem warns_pure (a : α) : Warns (pure a : Described α) [] := rfl

private theorem warns_ask (vendor : Answers) (q : Query) : Warns (ask vendor q) [] := rfl

/-- A note raises no warning. -/
theorem warns_takeNote (text : String) : Warns (takeNote text) [] := rfl

/-- A warning is raised that is of the right kind to be dropped if it repeats another. -/
theorem warns_raiseWarning {kind : WarningKind} {onceOnly : Bool} (h : onceOnly = kind.isOnce)
    (message : String) : Warns (raiseWarning kind onceOnly message) [⟨kind, message⟩] := by
  subst h
  rfl

/-- A sequence raises what its steps raise. -/
theorem warns_bind {x : Described α} {f : α → Described β} (hx : Warns x ws)
    (hf : Warns (f x.value) ws') : Warns (x >>= f) (ws ++ ws') := by
  rw [Warns, Event.raisedWarnings] at hx hf ⊢
  rw [Traced.events_bind, List.filterMap_append, hx, hf, List.map_append]

/-- After a step that raises no warning those of the next step are raised. -/
theorem warns_bind_silent {x : Described α} {f : α → Described β} (hx : Warns x [])
    (hf : Warns (f x.value) ws) : Warns (x >>= f) ws := warns_bind hx hf

/-- After a query those of the next step are raised, at the answer. -/
theorem warns_bind_ask {vendor : Answers} {q : Query} {f : Except Fault q.Answer → Described β}
    (hf : Warns (f (vendor q)) ws) : Warns (ask vendor q >>= f) ws :=
  warns_bind_silent (warns_ask vendor q) hf

/-- A last step that raises no warning. -/
theorem warns_bind_of_silent {x : Described α} {f : α → Described β} (hx : Warns x ws)
    (hf : Warns (f x.value) []) : Warns (x >>= f) ws := by
  have hboth := warns_bind hx hf
  rwa [List.append_nil] at hboth

/-- Mapping raises no further warning. -/
theorem warns_map (f : α → β) {x : Described α} (hx : Warns x ws) : Warns (f <$> x) ws := by
  rw [Warns, Traced.events_map]
  exact hx

/-- Collecting raises what is raised for the elements. -/
theorem warns_collect {f : α → Described β} {g : α → List Warning} {xs : List α}
    (h : ∀ x ∈ xs, Warns (f x) (g x)) : Warns (Traced.collect f xs) (xs.flatMap g) := by
  induction xs with
  | nil => rfl
  | cons x xs ih =>
    have hxs := ih fun y hy ↦ h y (List.mem_cons_of_mem x hy)
    rw [Traced.collect_cons, List.flatMap_cons]
    exact warns_bind (h x List.mem_cons_self) (warns_map _ hxs)

/-- Collecting raises no warning if none is raised for an element. -/
theorem warns_collect_silent {f : α → Described β} {xs : List α}
    (h : ∀ x ∈ xs, Warns (f x) []) : Warns (Traced.collect f xs) [] := by
  have hall := warns_collect h
  rwa [List.flatMap_eq_nil_iff.mpr fun _ _ ↦ rfl] at hall

/-- What is recorded of a computation that is observed from the start. -/
theorem Warns.recorded_observe {x : Described α} (h : Warns x ws) (hidden : Bool) :
    (({ hidden } : Warnings).observe x.events).1.recorded = withoutRepeats ws := by
  rw [Warnings.observe_fst, h, recorded_raiseAll]
  apply List.filter_eq_self.mpr
  intro w _
  exact congrArg not (Bool.and_false _)

/-- What raises no warning leaves the record as it is. -/
theorem Warns.observe_silent {x : Described α} (h : Warns x []) (record : Warnings) :
    (record.observe x.events).1 = record := by
  rw [Warnings.observe_fst, h]
  rfl

end Warns

end AcceleratorTopology
