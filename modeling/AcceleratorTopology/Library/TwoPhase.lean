import AcceleratorTopology.Traced
import AcceleratorTopology.Vendor.Fault

/-!
# Two-phase lists

The vendor's library hands out a list in two calls: the first has no buffer and tells how many
elements there are, the second fills a buffer of that many slots and tells how many it filled.
`fetchList` runs both. It trusts the second count only as far as the buffer reaches, and a slot
that the library leaves alone keeps what it was prepared with.
-/

namespace AcceleratorTopology.Library

open Vendor

/-- What a list entry point is called with. -/
structure ListRequest (α : Type) where
  count : UInt32
  /-- The prepared slots, none for the null pointer. -/
  buffer : Option (List α)
  deriving DecidableEq, Repr

/-- What a list entry point leaves behind. -/
structure ListReply (α : Type) where
  code : ResultCode
  count : UInt32
  /-- What was written into a slot, none for a slot that was left alone. -/
  written : Nat → Option α

/-- An entry point that hands out a list. -/
abbrev ListEntry (α : Type) := ListRequest α → ListReply α

variable {α : Type}

/-- The slots after a call, given how they were prepared. -/
def ListReply.slots (reply : ListReply α) (prepared : List α) : List α :=
  prepared.mapIdx fun i slot ↦ (reply.written i).getD slot

/-- The request that asks for the number of elements. -/
def sizing : ListRequest α := ⟨0, none⟩

/-- The request that hands over `count` slots, each prepared as `blank`. -/
def filling (count : UInt32) (blank : α) : ListRequest α :=
  ⟨count, some (List.replicate count.toNat blank)⟩

/-- Asks for the number of elements, then, unless there are none, for the elements. The events
are the requests made. -/
def fetchList (entry : String) (blank : α) (call : ListEntry α) :
    Traced (ListRequest α) (Except Fault (List α)) := do
  Traced.emit sizing
  let sized := call sizing
  match checked entry sized.code with
  | .error fault => return .error fault
  | .ok () =>
    if sized.count = 0 then return .ok []
    let request := filling sized.count blank
    Traced.emit request
    let filled := call request
    match checked entry filled.code with
    | .error fault => return .error fault
    | .ok () =>
      let slots := filled.slots (List.replicate sized.count.toNat blank)
      return .ok (slots.take filled.count.toNat)

/-- A call changes no more slots than there are. -/
@[simp] theorem ListReply.length_slots (reply : ListReply α) (prepared : List α) :
    (reply.slots prepared).length = prepared.length := by
  simp [slots]

/-- The first slots after a call, as far as there are any. -/
theorem ListReply.take_slots_replicate (reply : ListReply α) (blank : α) (n k : Nat) :
    (reply.slots (List.replicate n blank)).take k =
      (List.range (min n k)).map fun i ↦ (reply.written i).getD blank := by
  apply List.ext_getElem
  · rw [List.length_take, length_slots, List.length_replicate, List.length_map, List.length_range,
      Nat.min_comm]
  · intro i hi hi'
    rw [List.getElem_take, List.getElem_map, List.getElem_range]
    simp [slots]

section Fetch

variable {entry : String} {blank : α} {call : ListEntry α}

/-- Where the number of elements is not told, there is no list. -/
theorem fetchList_of_notSized (hsized : (call sizing).code ≠ .success) :
    fetchList entry blank call = ⟨[sizing], .error (.call entry (call sizing).code)⟩ := by
  simp only [fetchList, checked_of_ne hsized]
  rfl

variable (hsized : (call sizing).code = .success)
include hsized

/-- No elements are not asked for. -/
theorem fetchList_of_empty (hcount : (call sizing).count = 0) :
    fetchList entry blank call = ⟨[sizing], .ok []⟩ := by
  simp only [fetchList, hsized, checked_success, hcount, if_true]
  rfl

variable (hcount : (call sizing).count ≠ 0)
include hcount

/-- Where the elements are not told, there is no list. -/
theorem fetchList_of_notFilled
    (hfilled : (call (filling (call sizing).count blank)).code ≠ .success) :
    fetchList entry blank call = ⟨[sizing, filling (call sizing).count blank],
      .error (.call entry (call (filling (call sizing).count blank)).code)⟩ := by
  simp only [fetchList, hsized, checked_success, hcount, if_false, checked_of_ne hfilled]
  rfl

/-- The elements are what is in the slots, as many as are said to be filled. -/
theorem fetchList_of_filled
    (hfilled : (call (filling (call sizing).count blank)).code = .success) :
    let reply := call (filling (call sizing).count blank)
    fetchList entry blank call = ⟨[sizing, filling (call sizing).count blank],
      .ok ((reply.slots (List.replicate (call sizing).count.toNat blank)).take
        reply.count.toNat)⟩ := by
  simp only [fetchList, hsized, checked_success, hcount, if_false, hfilled]
  rfl

end Fetch

end AcceleratorTopology.Library
