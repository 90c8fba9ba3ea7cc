import AcceleratorTopology.Library.Answers

/-!
# The course of a list query

Whatever an entry point replies, a list is fetched in one of four ways: the number of elements is
not told; there are none; the elements are not told; or the slots are read, as many as were prepared
and are said to be filled. An entry point may change between its calls, and may contradict itself.
The six list queries of a library go this way. Each slot that is handed over carries its structure
type, and one that is left alone reads as the null handle or as a record of zeros.
-/

namespace AcceleratorTopology.Library

open Vendor

variable {α β σ : Type}

/-- A kind of slot: how it is prepared, and how it is read. -/
structure SlotKind (α β : Type) where
  blank : α
  /-- The structure type that a slot carries, none for a handle. -/
  structureType : α → Option UInt32
  read : α → β
  /-- What is read from a slot that was left alone. -/
  untouched : β
  read_blank : read blank = untouched

namespace SlotKind

/-- Slots that are read as they are. -/
def plain (blank : α) : SlotKind α α where
  blank := blank
  structureType _ := none
  read := id
  untouched := blank
  read_blank := rfl

/-- Slots for groups of command queues. -/
def queueGroup : SlotKind QueueGroupRecord QueueGroup where
  blank := { structureType := 0x6, flags := 0, maxFillPatternSize := 0, queueCount := 0 }
  structureType slot := some slot.structureType
  read := QueueGroupRecord.group
  untouched := { flags := 0, maxFillPatternSize := 0, queueCount := 0 }
  read_blank := rfl

/-- Slots for memories. -/
def memory : SlotKind MemoryRecord MemoryDescription where
  blank := {
    structureType := 0x7, flags := 0, maxClockRate := 0, maxBusWidth := 0, totalSize := 0
    name := List.replicate 256 0 }
  structureType slot := some slot.structureType
  read := MemoryRecord.properties
  untouched := { flags := 0, maxClockRate := 0, maxBusWidth := 0, totalSize := 0, name := "" }
  read_blank := by
    have hname : Text.Field.text (List.replicate 256 0) = "" := by decide
    rw [MemoryRecord.properties, hname]

end SlotKind

/-- The course of a list query to which there are the replies `first` and `second`: the requests
that are made, and the answer. -/
inductive Course (entry : String) (kind : SlotKind α β) (first second : ListReply α) :
    List (ListRequest α) → Except Fault (List β) → Prop
  | notSized (hfirst : first.code ≠ .success) :
    Course entry kind first second [⟨0, none⟩] (.error (.call entry first.code))
  | empty (hfirst : first.code = .success) (hcount : first.count = 0) :
    Course entry kind first second [⟨0, none⟩] (.ok [])
  | notFilled (hfirst : first.code = .success) (hcount : first.count ≠ 0)
    (hsecond : second.code ≠ .success) :
    Course entry kind first second
      [⟨0, none⟩, ⟨first.count, some (List.replicate first.count.toNat kind.blank)⟩]
      (.error (.call entry second.code))
  | filled (hfirst : first.code = .success) (hcount : first.count ≠ 0)
    (hsecond : second.code = .success) :
    Course entry kind first second
      [⟨0, none⟩, ⟨first.count, some (List.replicate first.count.toNat kind.blank)⟩]
      (.ok ((List.range (min first.count.toNat second.count.toNat)).map fun i ↦
        (second.written i).elim kind.untouched kind.read))

/-- A query is answered by the course of a list query. -/
def AnsweredInPhases (entry : EntryPoint) (handle? : Option Nat) (kind : SlotKind α β)
    (number : Option UInt32) (call : ListEntry α)
    (answered : Traced EntryCall (Except Fault (List β))) : Prop :=
  let first := call ⟨0, none⟩
  let second := call ⟨first.count, some (List.replicate first.count.toNat kind.blank)⟩
  ∃ requests, Course entry.symbol kind first second requests answered.value ∧
    (∀ request ∈ requests, ∀ slots, request.buffer = some slots →
      ∀ slot ∈ slots, kind.structureType slot = number) ∧
    answered.events = requests.map fun request ↦
      .list entry handle? request.count (request.buffer.map fun _ ↦ number)

/-- What an entry point that changes between its calls replies to the requests for one list: the
request with a buffer finds it as the one without has left it. -/
def ListEntry.ofChanging (query : σ → ListRequest α → ListReply α × σ) (s : σ) : ListEntry α :=
  fun request ↦
    match request.buffer with
    | none => (query s request).1
    | some _ => (query (query s ⟨0, none⟩).2 request).1

section Courses

variable {entry : String} {kind : SlotKind α β} {first second : ListReply α}
  {requests : List (ListRequest α)}

/-- A list is fetched by the course of a list query. -/
theorem course_fetchList (entry : String) (blank : α) (call : ListEntry α) :
    Course entry (.plain blank) (call sizing) (call (filling (call sizing).count blank))
      (fetchList entry blank call).events (fetchList entry blank call).value := by
  by_cases hsized : (call sizing).code = .success
  · by_cases hcount : (call sizing).count = 0
    · rw [fetchList_of_empty hsized hcount]
      exact .empty hsized hcount
    · by_cases hfilled : (call (filling (call sizing).count blank)).code = .success
      · rw [fetchList_of_filled hsized hcount hfilled, ListReply.take_slots_replicate]
        have hread (slot : Option α) : slot.getD blank = slot.elim blank id := by
          cases slot <;> rfl
        simp only [hread]
        exact .filled hsized hcount hfilled
      · rw [fetchList_of_notFilled hsized hcount hfilled]
        exact .notFilled hsized hcount hfilled
  · rw [fetchList_of_notSized hsized]
    exact .notSized hsized

private theorem Course.map_read {answer : Except Fault (List α)}
    (h : Course entry (.plain kind.blank) first second requests answer) :
    Course entry kind first second requests (answer.map (List.map kind.read)) := by
  cases h with
  | notSized hfirst => exact .notSized hfirst
  | empty hfirst hcount => exact .empty hfirst hcount
  | notFilled hfirst hcount hsecond => exact .notFilled hfirst hcount hsecond
  | filled hfirst hcount hsecond =>
    have hread (slot : Option α) :
        kind.read (slot.elim kind.blank id) = slot.elim kind.untouched kind.read := by
      cases slot with
      | none => exact kind.read_blank
      | some a => rfl
    have h : Course entry kind first second _ _ := .filled hfirst hcount hsecond
    simp only [← hread] at h
    rw [Except.map, List.map_map]
    exact h

private theorem Course.requests_cases {answer : Except Fault (List β)}
    (h : Course entry kind first second requests answer) :
    requests = [sizing] ∨
      first.count ≠ 0 ∧ requests = [sizing, filling first.count kind.blank] := by
  cases h with
  | notSized hfirst => exact .inl rfl
  | empty hfirst hcount => exact .inl rfl
  | notFilled hfirst hcount hsecond => exact .inr ⟨hcount, rfl⟩
  | filled hfirst hcount hsecond => exact .inr ⟨hcount, rfl⟩

private theorem entryCall_filling {count : UInt32} (hcount : count ≠ 0) (entry : EntryPoint)
    (handle? : Option Nat) (structureType : α → Option UInt32) (blank : α) :
    (filling count blank).entryCall entry handle? structureType =
      .list entry handle? count (some (structureType blank)) := by
  have hne : count.toNat ≠ 0 := fun hzero ↦ hcount (UInt32.toNat_inj.mp hzero)
  simp [ListRequest.entryCall, filling, List.head?_replicate, hne]

/-- What asks for a list as a library does, and reads its elements, is answered in two phases. -/
theorem answeredInPhases_list {point : EntryPoint} {handle? : Option Nat} {number : Option UInt32}
    {call : ListEntry α} {answered : Traced EntryCall (Except Fault (List β))}
    (hnumber : kind.structureType kind.blank = number)
    (hevents : answered.events = (list point handle? kind.blank kind.structureType call).events)
    (hvalue : answered.value =
      (list point handle? kind.blank kind.structureType call).value.map (List.map kind.read)) :
    AnsweredInPhases point handle? kind number call answered := by
  have hcourse := (course_fetchList point.symbol kind.blank call).map_read
  have hmade : (list point handle? kind.blank kind.structureType call).events =
      (fetchList point.symbol kind.blank call).events.map
        (·.entryCall point handle? kind.structureType) := rfl
  refine ⟨_, hvalue ▸ hcourse, ?_, ?_⟩
  · intro request hrequest slots hslots slot hslot
    rcases hcourse.requests_cases with hone | ⟨-, htwo⟩
    · rw [hone, List.mem_singleton] at hrequest
      rw [hrequest] at hslots
      cases hslots
    · rw [htwo, List.mem_cons, List.mem_singleton] at hrequest
      rcases hrequest with rfl | rfl
      · cases hslots
      · cases hslots
        rw [List.eq_of_mem_replicate hslot, hnumber]
  · rw [hevents, hmade]
    rcases hcourse.requests_cases with hone | ⟨hcount, htwo⟩
    · rw [hone]
      rfl
    · rw [htwo, List.map_cons, List.map_singleton, entryCall_filling hcount, hnumber]
      rfl

end Courses

/-- A list is fetched by the course of a list query, though the entry point may change between its
calls. Each list query of a library is answered by such a course, of the entry point that serves it:
handles go over as they are, and slots for records carry their structure type and are zero apart
from it. Only the entry point for modules may be missing, and then it is not called. -/
theorem lists_fetched_in_two_phases :
    (∀ (α σ : Type) (entry : String) (blank : α) (query : σ → ListRequest α → ListReply α × σ)
        (s : σ),
      let first := query s ⟨0, none⟩
      let slots := List.replicate first.1.count.toNat blank
      let second := query first.2 ⟨first.1.count, some slots⟩
      let run := fetchList entry blank (.ofChanging query s)
      Course entry (.plain blank) first.1 second.1 run.events run.value) ∧
    ∀ lib : Library,
      AnsweredInPhases .driverGet none (.plain ⟨0⟩) none lib.driverGet (lib.answer .drivers) ∧
      (∀ driver, AnsweredInPhases .deviceGet (some driver.raw) (.plain ⟨0⟩) none
        (lib.deviceGet driver) (lib.answer (.devices driver))) ∧
      (∀ device, AnsweredInPhases .deviceGetSubDevices (some device.raw) (.plain ⟨0⟩) none
        (lib.deviceGetSubDevices device) (lib.answer (.subdevices device))) ∧
      (∀ device, AnsweredInPhases .deviceGetQueueGroups (some device.raw) .queueGroup (some 0x6)
        (lib.deviceGetQueueGroups device) (lib.answer (.queueGroups device))) ∧
      (∀ device, AnsweredInPhases .deviceGetMemories (some device.raw) .memory (some 0x7)
        (lib.deviceGetMemories device) (lib.answer (.memories device))) ∧
      ∀ device, match lib.sysmanEnumModules with
        | none => lib.answer (.modules device) =
          ⟨[], .error (.missingEntry "zesDeviceEnumMemoryModules")⟩
        | some call => AnsweredInPhases .sysmanEnumModules (some device.raw) (.plain ⟨0⟩) none
          (call device) (lib.answer (.modules device)) := by
  refine ⟨fun α σ entry blank query s ↦ course_fetchList entry blank (.ofChanging query s), ?_⟩
  intro lib
  have hhandles {α : Type} (point : EntryPoint) (handle? : Option Nat) (null : α)
      (call : ListEntry α) : AnsweredInPhases point handle? (.plain null) none call
        (handles point handle? null call) := by
    refine answeredInPhases_list rfl rfl ?_
    rw [SlotKind.plain, List.map_id_fun, Except.map_id]
    rfl
  refine ⟨hhandles .., fun driver ↦ hhandles .., fun device ↦ hhandles .., fun device ↦ ?_,
    fun device ↦ ?_, fun device ↦ ?_⟩
  · exact answeredInPhases_list rfl (List.append_nil _) rfl
  · exact answeredInPhases_list rfl (List.append_nil _) rfl
  · have hanswer : lib.answer (.modules device) =
        ifPresent .sysmanEnumModules lib.sysmanEnumModules fun call ↦
          handles .sysmanEnumModules (some device.raw) ⟨0⟩ (call device) := rfl
    rw [hanswer]
    cases lib.sysmanEnumModules with
    | none => rfl
    | some call => exact hhandles ..

/-- Of three slots one is left alone, and no more than the three are read. -/
example : (fetchList "zeDeviceGet" 7 fun request ↦ ⟨.success,
    if request.buffer.isNone then 3 else 5, fun i ↦ if i = 1 then none else some i⟩).value =
      .ok [0, 7, 2] := rfl

end AcceleratorTopology.Library
