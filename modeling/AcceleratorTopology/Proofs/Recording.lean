import AcceleratorTopology.Event.Recording
import Mathlib.Data.List.Count
import Mathlib.Data.List.Induction
import Mathlib.Data.List.Sort

/-!
# What becomes of calls

Warnings are raised by calls, in any case or once only and in any order. Which of the calls are
recorded is known from the calls alone: each one in any case, and each one once only before which
no call with a warning of its kind was recorded. The record holds the warnings of these calls in
order, and the kinds that it keeps are those of the warnings that it holds.
-/

namespace AcceleratorTopology

/-- The kind of the warning of the call at a place. -/
def kindAt? (calls : List Raised) (i : Nat) : Option WarningKind :=
  calls[i]?.map fun r ↦ r.warning.kind

/-- Given the places of the calls that are recorded before it, the call at a place is recorded: it
raises its warning in any case, or none of those calls has a warning of its kind. -/
def IsRecorded (calls : List Raised) (places : List Nat) (i : Nat) (r : Raised) : Prop :=
  r.onceOnly = true → ∀ j ∈ places, j < i → kindAt? calls j ≠ some r.warning.kind

/-- The places of the calls that are recorded, in order. -/
structure RecordedAt (calls : List Raised) (places : List Nat) : Prop where
  ascending : places.Pairwise (· < ·)
  mem_iff : ∀ i, i ∈ places ↔ ∃ r, calls[i]? = some r ∧ IsRecorded calls places i r

/-- The kinds kept by a record are those of the warnings that it holds. -/
def Warnings.InStep (ws : Warnings) : Prop :=
  ∀ kind, ws.has kind = true ↔ ∃ w ∈ ws.recorded, w.kind = kind

/-- A fresh record has neither kinds nor warnings. -/
theorem Warnings.inStep_fresh (hidden : Bool) : ({ hidden } : Warnings).InStep := by
  intro kind
  constructor
  · exact nofun
  · rintro ⟨w, hw, -⟩
    cases hw

/-- A warning comes to a record with its kind. -/
theorem Warnings.InStep.record {ws : Warnings} (h : ws.InStep) (w : Warning) :
    (ws.record w).InStep := by
  intro kind
  rw [has_record, Bool.or_eq_true, beq_iff_eq, h kind, recorded_record]
  simp only [List.mem_append, List.mem_singleton, or_and_right, exists_or, exists_eq_left]
  rw [or_comm, eq_comm]

private theorem isRecorded_congr {calls calls' : List Raised} {places places' : List Nat} {i : Nat}
    {r : Raised} (hmem : ∀ j < i, (j ∈ places ↔ j ∈ places'))
    (hkind : ∀ j < i, kindAt? calls j = kindAt? calls' j) :
    IsRecorded calls places i r ↔ IsRecorded calls' places' i r := by
  refine imp_congr_right fun _ ↦ forall_congr' fun j ↦ ?_
  rw [imp.swap, @imp.swap (j ∈ places')]
  exact imp_congr_right fun hlt ↦ by rw [hmem j hlt, hkind j hlt]

namespace RecordedAt

variable {calls : List Raised} {places : List Nat}

private theorem lt_length (h : RecordedAt calls places) {i : Nat} (hi : i ∈ places) :
    i < calls.length := by
  obtain ⟨r, hr, -⟩ := (h.mem_iff i).mp hi
  exact (List.getElem?_eq_some_iff.mp hr).1

/-- No other places are those of the calls that are recorded. -/
theorem unique (h : RecordedAt calls places) {others : List Nat} (h' : RecordedAt calls others) :
    others = places := by
  have hmem (i : Nat) : i ∈ others ↔ i ∈ places := by
    induction i using Nat.strongRecOn with
    | ind i ih =>
      rw [h.mem_iff, h'.mem_iff]
      exact exists_congr fun r ↦ and_congr_right fun _ ↦ isRecorded_congr ih fun _ _ ↦ rfl
  exact h'.ascending.eq_of_mem_iff h.ascending hmem

/-- Without calls nothing is recorded. -/
theorem nil : RecordedAt [] [] where
  ascending := List.Pairwise.nil
  mem_iff i := by
    constructor
    · exact nofun
    · rintro ⟨r, hr, -⟩
      cases hr

/-- With one more call, the places are those of before, and its own if it is recorded. -/
theorem concat (h : RecordedAt calls places) {r : Raised} {later : List Nat}
    (hascending : later.Pairwise (· < ·))
    (hmem : ∀ i, i ∈ later ↔
      i ∈ places ∨ i = calls.length ∧ IsRecorded calls places calls.length r) :
    RecordedAt (calls ++ [r]) later where
  ascending := hascending
  mem_iff i := by
    have hearlier (j : Nat) (hj : j < calls.length) : j ∈ places ↔ j ∈ later := by
      rw [hmem, or_iff_left fun hlast ↦ Nat.ne_of_lt hj hlast.1]
    have hkind (j : Nat) (hj : j < calls.length) :
        kindAt? calls j = kindAt? (calls ++ [r]) j := by
      rw [kindAt?, kindAt?, List.getElem?_append_left hj]
    have hcongr {k : Nat} (hk : k ≤ calls.length) (r' : Raised) :
        IsRecorded calls places k r' ↔ IsRecorded (calls ++ [r]) later k r' :=
      isRecorded_congr (fun j hj ↦ hearlier j (Nat.lt_of_lt_of_le hj hk))
        fun j hj ↦ hkind j (Nat.lt_of_lt_of_le hj hk)
    rcases Nat.lt_trichotomy i calls.length with hlt | rfl | hgt
    · rw [← hearlier i hlt, h.mem_iff, List.getElem?_append_left hlt]
      exact exists_congr fun r' ↦ and_congr_right fun _ ↦ hcongr (Nat.le_of_lt hlt) r'
    · rw [hmem, or_iff_right fun hi ↦ Nat.lt_irrefl _ (h.lt_length hi), and_iff_right rfl,
        hcongr (Nat.le_refl _), List.getElem?_concat_length]
      simp only [Option.some.injEq, exists_eq_left']
    · have hlen : (calls ++ [r]).length ≤ i := by
        rw [List.length_append]
        exact hgt
      rw [hmem, List.getElem?_eq_none hlen]
      constructor
      · rintro (hi | ⟨hi, -⟩)
        · exact absurd (h.lt_length hi) (Nat.lt_asymm hgt)
        · exact absurd hi (Nat.ne_of_gt hgt)
      · rintro ⟨r', hr', -⟩
        cases hr'

private theorem map_warning_concat (h : RecordedAt calls places) (r : Raised) :
    places.map (fun i ↦ (calls ++ [r])[i]?.map Raised.warning) =
      places.map (fun i ↦ calls[i]?.map Raised.warning) := by
  refine List.map_congr_left fun i hi ↦ ?_
  rw [List.getElem?_append_left (h.lt_length hi)]

private theorem countP_kind_le_one (h : RecordedAt calls places) {kind : WarningKind}
    (honce : ∀ r ∈ calls, r.warning.kind = kind → r.onceOnly = true) :
    places.countP (fun i ↦ kindAt? calls i = some kind) ≤ 1 := by
  rw [List.countP_eq_length_filter]
  have hmem (i : Nat) (hi : i ∈ places.filter fun i ↦ kindAt? calls i = some kind) :
      i ∈ places ∧ kindAt? calls i = some kind := by
    simpa using hi
  have hascending := h.ascending.filter fun i ↦ kindAt? calls i = some kind
  generalize places.filter (fun i ↦ kindAt? calls i = some kind) = found at hmem hascending
  match found with
  | [] => exact Nat.zero_le 1
  | [_] => exact Nat.le_refl 1
  | i :: j :: _ =>
    -- The later one of two was recorded although the earlier one had been.
    obtain ⟨hi, hkindi⟩ := hmem i List.mem_cons_self
    obtain ⟨hj, hkindj⟩ := hmem j (List.mem_cons_of_mem i List.mem_cons_self)
    have hij : i < j := List.rel_of_pairwise_cons hascending List.mem_cons_self
    obtain ⟨r, hr, hrecorded⟩ := (h.mem_iff j).mp hj
    have hkind : r.warning.kind = kind := by
      rw [kindAt?, hr] at hkindj
      exact Option.some.inj hkindj
    have hno := hrecorded (honce r (List.mem_of_getElem? hr) hkind) i hi hij
    exact absurd (hkindi.trans (congrArg some hkind.symm)) hno

end RecordedAt

private theorem Warnings.observe_concat (ws : Warnings) (events : List Event) (e : Event) :
    ws.observe (events ++ [e]) = ((ws.observe events).1.after e,
      (ws.observe events).2 ++ ((ws.observe events).1.logLine? e).toList) := by
  induction events generalizing ws with
  | nil => exact congrArg (Prod.mk _) (List.append_nil _)
  | cons first events ih =>
    rw [List.cons_append, observe, ih, observe, List.append_assoc]

namespace Recording

/-- What calls on a fresh record come to: what they are told, the record, and the places of the
calls that are recorded. -/
structure Outcome (calls : List Raised) (answers : List (Option Bool)) (ws : Warnings)
    (places : List Nat) : Prop where
  inStep : ws.InStep
  recordedAt : RecordedAt calls places
  recorded_eq : ws.recorded.map some = places.map fun i ↦ calls[i]?.map Raised.warning
  answers_eq : answers = calls.mapIdx fun i r ↦ r.answer (decide (i ∈ places))

namespace Outcome

variable {calls : List Raised} {answers : List (Option Bool)} {ws : Warnings} {places : List Nat}

/-- Without calls there is nothing to tell. -/
theorem nil (hidden : Bool) : Outcome [] [] { hidden } [] where
  inStep := Warnings.inStep_fresh hidden
  recordedAt := .nil
  recorded_eq := rfl
  answers_eq := rfl

private theorem map_kind (h : Outcome calls answers ws places) :
    ws.recorded.map (fun w ↦ some w.kind) = places.map (kindAt? calls) := by
  have hkind : (Option.map Warning.kind ∘ fun i ↦ calls[i]?.map Raised.warning) = kindAt? calls :=
    funext fun i ↦ Option.map_map ..
  have hmap := congrArg (List.map (Option.map Warning.kind)) h.recorded_eq
  rw [List.map_map, List.map_map, hkind] at hmap
  exact hmap

/-- The kinds that have been recorded are those of the recorded calls. -/
theorem has_iff (h : Outcome calls answers ws places) (kind : WarningKind) :
    ws.has kind = true ↔ ∃ i ∈ places, kindAt? calls i = some kind := by
  have hmem : some kind ∈ ws.recorded.map (fun w ↦ some w.kind) ↔
      some kind ∈ places.map (kindAt? calls) := by
    rw [h.map_kind]
  rw [h.inStep kind]
  simpa only [List.mem_map, Option.some.injEq] using hmem

private theorem countP_kind_le_one (h : Outcome calls answers ws places) {kind : WarningKind}
    (honce : ∀ r ∈ calls, r.warning.kind = kind → r.onceOnly = true) :
    ws.recorded.countP (fun w ↦ w.kind = kind) ≤ 1 := by
  have hcount := congrArg (List.countP fun k ↦ k = some kind) h.map_kind
  rw [List.countP_map, List.countP_map] at hcount
  calc ws.recorded.countP (fun w ↦ w.kind = kind)
    _ = ws.recorded.countP ((fun k ↦ k = some kind) ∘ fun w ↦ some w.kind) := by
      simp only [Function.comp_def, Option.some.injEq]
    _ = places.countP (fun i ↦ kindAt? calls i = some kind) := hcount
    _ ≤ 1 := h.recordedAt.countP_kind_le_one honce

/-- The record accepts a warning just if a call that raises it next is recorded. -/
theorem accepts_iff (h : Outcome calls answers ws places) (r : Raised) :
    ws.accepts r = true ↔ IsRecorded calls places calls.length r := by
  have hlt (j : Nat) (hj : j ∈ places) : j < calls.length := h.recordedAt.lt_length hj
  have hnew : ws.has r.warning.kind = false ↔
      ∀ j ∈ places, j < calls.length → kindAt? calls j ≠ some r.warning.kind := by
    rw [← Bool.not_eq_true, h.has_iff]
    exact ⟨fun hno j hj _ he ↦ hno ⟨j, hj, he⟩, fun hno ⟨j, hj, he⟩ ↦ hno j hj (hlt j hj) he⟩
  rw [Warnings.accepts, IsRecorded, ← hnew]
  cases r.onceOnly <;> simp

private theorem mapIdx_answer_concat {later : List Nat} (r : Raised)
    (hearlier : ∀ i < calls.length, (i ∈ later ↔ i ∈ places)) :
    (calls ++ [r]).mapIdx (fun i r ↦ r.answer (decide (i ∈ later))) =
      calls.mapIdx (fun i r ↦ r.answer (decide (i ∈ places))) ++
        [r.answer (decide (calls.length ∈ later))] := by
  rw [List.mapIdx_concat]
  congr 1
  rw [List.mapIdx_eq_mapIdx_iff]
  intro i hi
  rw [decide_eq_decide.mpr (hearlier i hi)]

private theorem concat_dropped (h : Outcome calls answers ws places) {r : Raised}
    (hdrops : ws.accepts r = false) :
    Outcome (calls ++ [r]) (answers ++ [r.answer false]) ws places := by
  have hno : ¬IsRecorded calls places calls.length r := by
    rw [← h.accepts_iff, hdrops]
    exact Bool.false_ne_true
  have hnew : calls.length ∉ places := fun hi ↦ Nat.lt_irrefl _ (h.recordedAt.lt_length hi)
  constructor
  case inStep => exact h.inStep
  case recordedAt =>
    exact h.recordedAt.concat h.recordedAt.ascending fun i ↦
      (or_iff_left fun hlast ↦ hno hlast.2).symm
  case recorded_eq => rw [h.recordedAt.map_warning_concat, h.recorded_eq]
  case answers_eq =>
    rw [mapIdx_answer_concat r fun i _ ↦ Iff.rfl, h.answers_eq, decide_eq_false hnew]

private theorem concat_recorded (h : Outcome calls answers ws places) {r : Raised}
    (haccepts : ws.accepts r = true) :
    Outcome (calls ++ [r]) (answers ++ [r.answer true]) (ws.record r.warning)
      (places ++ [calls.length]) := by
  have hrecorded : IsRecorded calls places calls.length r := (h.accepts_iff r).mp haccepts
  constructor
  case inStep => exact h.inStep.record r.warning
  case recordedAt =>
    refine h.recordedAt.concat (List.pairwise_append.mpr
      ⟨h.recordedAt.ascending, List.pairwise_singleton _ _, fun i hi j hj ↦ ?_⟩) fun i ↦ ?_
    · exact List.mem_singleton.mp hj ▸ h.recordedAt.lt_length hi
    · rw [List.mem_append, List.mem_singleton, and_iff_left hrecorded]
  case recorded_eq =>
    rw [Warnings.recorded_record, List.map_append, List.map_append, h.recordedAt.map_warning_concat,
      h.recorded_eq, List.map_singleton, List.map_singleton, List.getElem?_concat_length]
    rfl
  case answers_eq =>
    have hearlier (i : Nat) (hi : i < calls.length) :
        i ∈ places ++ [calls.length] ↔ i ∈ places := by
      rw [List.mem_append, List.mem_singleton, or_iff_left (Nat.ne_of_lt hi)]
    rw [mapIdx_answer_concat r hearlier, h.answers_eq,
      decide_eq_true (List.mem_append_right _ List.mem_cons_self)]

/-- One more call, whether its warning is recorded or dropped. -/
theorem concat (h : Outcome calls answers ws places) (r : Raised) :
    ∃ later, Outcome (calls ++ [r]) (answers ++ [r.answer (ws.accepts r)]) (ws.raise r) later := by
  cases haccepts : ws.accepts r with
  | false =>
    have hraise : ws.raise r = ws := if_neg (Bool.eq_false_iff.mp haccepts)
    rw [hraise]
    exact ⟨places, h.concat_dropped haccepts⟩
  | true =>
    have hraise : ws.raise r = ws.record r.warning := if_pos haccepts
    rw [hraise]
    exact ⟨places ++ [calls.length], h.concat_recorded haccepts⟩

end Outcome

private theorem raiseAll_concat (calls : List Raised) (r : Raised) :
    raiseAll (calls ++ [r]) = (do
      let answers ← raiseAll calls
      let answer ← raise r
      return answers ++ [answer]) := by
  rw [raiseAll, raiseAll, List.mapM_append]
  simp

/-- One more call goes on from what those before it leave. -/
theorem on_raiseAll_concat {calls : List Raised} {ws ws' : Warnings} {lines : List LogLine}
    {answers : List (Option Bool)} (h : (raiseAll calls).on ws = ⟨lines, (answers, ws')⟩)
    (r : Raised) :
    (raiseAll (calls ++ [r])).on ws = ⟨lines ++ (ws'.logLine? (.raised r)).toList,
      (answers ++ [r.answer (ws'.accepts r)], ws'.raise r)⟩ := by
  rw [raiseAll_concat, on_bind, h]
  apply Traced.ext
  · change lines ++ (((raise r).on ws').events ++ []) = _
    rw [on_raise, List.append_nil]
  · change (answers ++ [((raise r).on ws').value.1], ((raise r).on ws').value.2) = _
    rw [on_raise]

private theorem exists_outcome (hidden : Bool) (calls : List Raised) :
    ∃ lines answers ws places,
      (raiseAll calls).on { hidden } = ⟨lines, (answers, ws)⟩ ∧
      ({ hidden } : Warnings).observe (calls.map .raised) = (ws, lines) ∧
      Outcome calls answers ws places := by
  -- From the last call on: it finds the record that those before it leave.
  induction calls using List.reverseRecOn with
  | nil => exact ⟨[], [], { hidden }, [], rfl, rfl, .nil hidden⟩
  | append_singleton calls r ih =>
    obtain ⟨lines, answers, ws, places, hon, hobserve, houtcome⟩ := ih
    obtain ⟨later, hlater⟩ := houtcome.concat r
    refine ⟨_, _, _, later, on_raiseAll_concat hon r, ?_, hlater⟩
    rw [List.map_append, List.map_singleton, Warnings.observe_concat, hobserve]
    rfl

end Recording

/-- Any calls on a fresh record, in any order, change it and show warnings as the events of raising
these do. The kinds that have been recorded are those of the warnings in the record. This holds the
warnings of certain calls, in the order of the calls: of each one in any case, and of each one once
only before which no call with a warning of its kind was recorded. No other calls are such, and a
call once only is told that it was recorded just if it is one of them. So of a kind of which all
calls are once only, at most one warning is recorded. -/
theorem calls_recorded_in_order (hidden : Bool) (calls : List Raised) :
    ∃ lines answers ws places,
      (Recording.raiseAll calls).on { hidden } = ⟨lines, (answers, ws)⟩ ∧
      ({ hidden } : Warnings).observe (calls.map .raised) = (ws, lines) ∧
      (∀ kind, ws.has kind = true ↔ ∃ w ∈ ws.recorded, w.kind = kind) ∧
      (∀ others, RecordedAt calls others ↔ others = places) ∧
      ws.recorded.map some = places.map (fun i ↦ calls[i]?.map Raised.warning) ∧
      answers = calls.mapIdx (fun i r ↦ r.answer (decide (i ∈ places))) ∧
      ∀ kind, (∀ r ∈ calls, r.warning.kind = kind → r.onceOnly = true) →
        ws.recorded.countP (fun w ↦ w.kind = kind) ≤ 1 := by
  obtain ⟨lines, answers, ws, places, hon, hobserve, houtcome⟩ :=
    Recording.exists_outcome hidden calls
  refine ⟨lines, answers, ws, places, hon, hobserve, houtcome.inStep, fun others ↦ ?_,
    houtcome.recorded_eq, houtcome.answers_eq, fun kind honce ↦ ?_⟩
  · constructor
    · exact houtcome.recordedAt.unique
    · rintro rfl
      exact houtcome.recordedAt
  · exact houtcome.countP_kind_le_one honce

/-- A warning that was recorded in any case silences a later one of its kind that is raised once
only, but not the other way round. -/
example :
    let calls : List Raised :=
      [⟨⟨.subdeviceAttribution, "module #0"⟩, false⟩, ⟨⟨.subdeviceAttribution, "module #1"⟩, true⟩,
        ⟨⟨.sysmanUnavailable, "first"⟩, true⟩, ⟨⟨.sysmanUnavailable, "second"⟩, false⟩]
    ((Recording.raiseAll calls).on {}).value.1 = [none, some false, some true, none] := by decide

end AcceleratorTopology
