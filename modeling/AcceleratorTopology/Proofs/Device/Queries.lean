import AcceleratorTopology.Device.Description
import AcceleratorTopology.Proofs.Trail

/-!
# What is asked about a device

Which queries each part of a description puts to the vendor. Memories and modules are listed by the
step that finds memory sizes and by no other.
-/

namespace AcceleratorTopology

open Vendor Settings

/-- A computation puts no other queries than these. -/
def Asks {α : Type} (qs : Query → Prop) (x : Described α) : Prop :=
  Traced.All (fun e ↦ ∀ q, e.query? = some q → qs q) x

section Asks

variable {α β : Type} {qs : Query → Prop}

/-- A pure value asks nothing. -/
theorem asks_pure (a : α) : Asks qs (pure a : Described α) := Traced.all_pure _ a

/-- A sequence asks what its steps ask. -/
theorem asks_bind {x : Described α} {f : α → Described β} (hx : Asks qs x)
    (hf : ∀ a, Asks qs (f a)) : Asks qs (x >>= f) := Traced.all_bind hx hf

/-- A query asks itself. -/
theorem asks_ask {vendor : Answers} {q : Query} (h : qs q) : Asks qs (ask vendor q) := by
  apply Traced.all_emit
  intro q' he
  cases he
  exact h

/-- A note asks nothing. -/
theorem asks_takeNote (text : String) : Asks qs (takeNote text) := by
  apply Traced.all_emit
  intro q he
  cases he

/-- A warning asks nothing. -/
theorem asks_raiseWarning (kind : WarningKind) (onceOnly : Bool) (message : String) :
    Asks qs (raiseWarning kind onceOnly message) := by
  apply Traced.all_emit
  intro q he
  cases he

/-- Collecting asks what is asked for the elements. -/
theorem asks_collect {f : α → Described β} {xs : List α} (hf : ∀ a, Asks qs (f a)) :
    Asks qs (Traced.collect f xs) := Traced.all_collect hf

/-- What asks only some queries asks no others. -/
theorem Asks.mono {qs' : Query → Prop} {x : Described α} (h : Asks qs x)
    (hq : ∀ q, qs q → qs' q) : Asks qs' x :=
  Traced.All.mono h fun _ he q hs ↦ hq q (he q hs)

/-- A query that was put is one of those. -/
theorem Asks.of_mem {x : Described α} (h : Asks qs x) {q : Query}
    (hq : q ∈ Event.queries x.events) : qs q := by
  obtain ⟨e, he, hs⟩ := List.mem_filterMap.mp hq
  exact h e he q hs

/-- Of what is asked on the way of a computation, what passes a test. -/
def asked (test : Query → Bool) (x : Described α) : List Query :=
  (Event.queries x.events).filter test

variable (test : Query → Bool)

/-- A pure value has asked nothing. -/
theorem asked_pure (a : α) : asked test (pure a : Described α) = [] := rfl

/-- A note has asked nothing. -/
theorem asked_takeNote (text : String) : asked test (takeNote text) = [] := rfl

/-- A query has asked itself. -/
theorem asked_ask (vendor : Answers) (q : Query) :
    asked test (ask vendor q) = if test q then [q] else [] := by
  have h : Event.queries (ask vendor q).events = [q] := rfl
  rw [asked, h, List.filter_cons, List.filter_nil]

/-- A sequence has asked what its steps ask, in order. -/
theorem asked_bind (x : Described α) (f : α → Described β) :
    asked test (x >>= f) = asked test x ++ asked test (f x.value) := by
  rw [asked, Traced.events_bind, Event.queries_append, List.filter_append]
  rfl

/-- Mapping asks nothing more. -/
theorem asked_map (f : α → β) (x : Described α) : asked test (f <$> x) = asked test x := by
  rw [asked, Traced.events_map]
  rfl

/-- Collecting has asked what is asked for the elements, in order. -/
theorem asked_collect (f : α → Described β) (xs : List α) :
    asked test (Traced.collect f xs) = xs.flatMap fun x ↦ asked test (f x) := by
  induction xs with
  | nil => rfl
  | cons x xs ih => rw [Traced.collect_cons, asked_bind, asked_map, ih, List.flatMap_cons]

/-- A computation that asks other things has asked nothing that passes the test. -/
theorem Asks.asked_eq_nil {test : Query → Bool} {x : Described α}
    (h : Asks (fun q ↦ test q = false) x) : asked test x = [] := by
  apply List.filter_eq_nil_iff.mpr
  intro q hq
  rw [h.of_mem hq]
  exact Bool.false_ne_true

end Asks

private theorem asks_coreProperties (vendor : Answers) (name : String) (device : DeviceHandle) :
    Asks (· = .properties device) (coreProperties vendor name device) := by
  refine asks_bind (asks_ask rfl) fun answer ↦ ?_
  cases answer with
  | error fault => exact asks_bind (asks_takeNote _) fun _ ↦ asks_pure _
  | ok p =>
    dsimp only
    split
    · exact asks_bind (asks_raiseWarning _ _ _) fun _ ↦ asks_pure _
    · exact asks_pure _

private theorem asks_identityAttributes (vendor : Answers) (device : DeviceHandle)
    (switch : SysmanState) :
    Asks (· = .identity device) (identityAttributes vendor device switch) := by
  refine asks_bind (asks_ask rfl) fun answer ↦ ?_
  cases answer with
  | error fault => exact asks_bind (asks_raiseWarning _ _ _) fun _ ↦ asks_pure _
  | ok strings => exact asks_pure _

/-- A profile takes the properties of the device and its identity. -/
theorem asks_deviceProfile (vendor : Answers) (name : String) (device : DeviceHandle)
    (standing : DeviceStanding) (switch : SysmanState) :
    Asks (fun q ↦ q = .properties device ∨ q = .identity device)
      (deviceProfile vendor name device standing switch) := by
  refine asks_bind ((asks_coreProperties vendor name device).mono fun q ↦ Or.inl) fun p ↦ ?_
  dsimp only
  split
  · exact asks_pure _
  · exact asks_bind ((asks_identityAttributes vendor device switch).mono fun q ↦ Or.inr)
      fun _ ↦ asks_pure _

/-- The core interface is asked for the queue groups of the device. -/
theorem asks_queueAttributes (vendor : Answers) (name : String) (device : DeviceHandle) :
    Asks (· = .queueGroups device) (queueAttributes vendor name device) := by
  refine asks_bind (asks_ask rfl) fun answer ↦ ?_
  cases answer with
  | error fault => exact asks_bind (asks_takeNote _) fun _ ↦ asks_pure _
  | ok groups => exact asks_pure _

/-- The core interface is asked for the subdevices of the device. -/
theorem asks_subdevicesOf (vendor : Answers) (name : String) (device : DeviceHandle) :
    Asks (· = .subdevices device) (subdevicesOf vendor name device) := by
  refine asks_bind (asks_ask rfl) fun answer ↦ ?_
  cases answer with
  | error fault => exact asks_bind (asks_takeNote _) fun _ ↦ asks_pure _
  | ok handles => exact asks_pure _

/-- Whether a query lists the modules or the memories of a device. -/
def Vendor.Query.isMemoryList : Query → Bool
  | memories _ | modules _ => true
  | _ => false

private theorem asks_profile_aside (vendor : Answers) (name : String) (device : DeviceHandle)
    (standing : DeviceStanding) (switch : SysmanState) :
    Asks (fun q ↦ q.isMemoryList = false) (deviceProfile vendor name device standing switch) := by
  refine (asks_deviceProfile vendor name device standing switch).mono fun q hq ↦ ?_
  rcases hq with rfl | rfl <;> rfl

private theorem asks_queues_aside (vendor : Answers) (name : String) (device : DeviceHandle) :
    Asks (fun q ↦ q.isMemoryList = false) (queueAttributes vendor name device) :=
  (asks_queueAttributes vendor name device).mono fun _ hq ↦ hq ▸ rfl

private theorem asks_describePart_aside (vendor : Answers) (switch : SysmanState) (whole : String)
    (k : Nat) (device : DeviceHandle) :
    Asks (fun q ↦ q.isMemoryList = false) (describePart vendor switch whole k device) :=
  asks_bind (asks_profile_aside _ _ _ _ _) fun _ ↦
    asks_bind (asks_queues_aside _ _ _) fun _ ↦ asks_pure _

/-- A survey asks for no list of memories or modules. -/
theorem asks_surveyDevice_aside (vendor : Answers) (config : Configuration) (switch : SysmanState)
    (listing : Listing) :
    Asks (fun q ↦ q.isMemoryList = false) (surveyDevice vendor config switch listing) := by
  refine asks_bind (asks_profile_aside _ _ _ _ _) fun _ ↦ ?_
  refine asks_bind (asks_queues_aside _ _ _) fun _ ↦ ?_
  refine asks_bind ((asks_subdevicesOf _ _ _).mono fun _ hq ↦ hq ▸ rfl) fun _ ↦ ?_
  exact asks_bind (asks_collect fun _ ↦ asks_describePart_aside _ _ _ _ _) fun _ ↦ asks_pure _

end AcceleratorTopology
