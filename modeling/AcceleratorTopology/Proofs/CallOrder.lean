import AcceleratorTopology.Proofs.Device.Agreement

/-!
# The order of queries

When a query may be put depends on those that were put before it: the interface comes first, nothing
follows a failure to start it or to list the drivers, and nothing is asked about what has not been
listed. A computation puts its queries in order once what it relies on has been asked, whatever else
has been asked by then.
-/

namespace AcceleratorTopology

open Vendor

namespace Vendor

section Known

variable (vendor : Answers) (past : List Query)

/-- A driver that was listed in the past. -/
def KnownDriver (driver : DriverHandle) : Prop :=
  .drivers ∈ past ∧ driver ∈ listed (vendor .drivers)

/-- A device that was listed in the past, as a whole. -/
def KnownDevice (device : DeviceHandle) : Prop :=
  ∃ driver, .devices driver ∈ past ∧ device ∈ listed (vendor (.devices driver))

/-- A device that was listed in the past, as a part of another one. -/
def KnownPart (device : DeviceHandle) : Prop :=
  ∃ whole, .subdevices whole ∈ past ∧ device ∈ listed (vendor (.subdevices whole))

/-- A memory module that was listed in the past. -/
def KnownModule (handle : ModuleHandle) : Prop :=
  ∃ device, .modules device ∈ past ∧ handle ∈ listed (vendor (.modules device))

/-- When a query may be put after those of the past. -/
structure Permitted (q : Query) : Prop where
  /-- The interface is started before anything else, and not again. -/
  first : q = .init ↔ past = []
  /-- Nothing follows a failure to start or to list the drivers. -/
  unfailed : ∀ q' ∈ past, q' = .init ∨ q' = .drivers → ∃ answer, vendor q' = .ok answer
  driver : ∀ driver, q = .devices driver → KnownDriver vendor past driver
  device : ∀ device, q.device? = some device →
    KnownDevice vendor past device ∨ KnownPart vendor past device
  module : ∀ handle, q.module? = some handle → KnownModule vendor past handle
  /-- Modules and locations are those of whole devices. -/
  whole : ∀ device, q = .modules device ∨ q = .location device → KnownDevice vendor past device
  /-- The state of a module is asked for right after its description, if that gives no size. -/
  state : ∀ handle, q = .moduleState handle →
    past.getLast? = some (.moduleProperties handle) ∧
      ∃ p, vendor (.moduleProperties handle) = .ok p ∧ p.physicalSize = 0

/-- The interface has been started and has listed its drivers. -/
structure Underway : Prop where
  begun : .init ∈ past
  started : vendor .init = .ok ()
  drivers : ∃ drivers, vendor .drivers = .ok drivers

end Known

private theorem Query.module?_eq_none {q : Query} {device : DeviceHandle}
    (h : q.device? = some device) : q.module? = none := by
  cases q with
  | moduleProperties handle => cases h
  | moduleState handle => cases h
  | _ => rfl

section Permitted

variable {vendor : Answers} {past past' : List Query} {q : Query} {device : DeviceHandle}
  {handle : ModuleHandle}

/-- A driver that was listed is still known later. -/
theorem KnownDriver.mono {driver : DriverHandle} (h : KnownDriver vendor past driver)
    (hp : past ⊆ past') : KnownDriver vendor past' driver := ⟨hp h.1, h.2⟩

private theorem told_mono {α : Type} {list : α → Query} {tells : α → Prop}
    (h : ∃ a, list a ∈ past ∧ tells a) (hp : past ⊆ past') : ∃ a, list a ∈ past' ∧ tells a :=
  h.imp fun _ hput ↦ ⟨hp hput.1, hput.2⟩

/-- A device that was listed is still known later. -/
theorem KnownDevice.mono (h : KnownDevice vendor past device) (hp : past ⊆ past') :
    KnownDevice vendor past' device := told_mono h hp

/-- A part that was listed is still known later. -/
theorem KnownPart.mono (h : KnownPart vendor past device) (hp : past ⊆ past') :
    KnownPart vendor past' device := told_mono h hp

/-- A module that was listed is still known later. -/
theorem KnownModule.mono (h : KnownModule vendor past handle) (hp : past ⊆ past') :
    KnownModule vendor past' handle := told_mono h hp

namespace Underway

/-- What is underway is so later. -/
theorem mono (h : Underway vendor past) (hp : past ⊆ past') : Underway vendor past' :=
  ⟨hp h.begun, h.started, h.drivers⟩

private theorem answered (h : Underway vendor past) (hq : q = .init ∨ q = .drivers) :
    ∃ answer, vendor q = .ok answer := by
  cases hq with
  | inl he => exact he ▸ ⟨(), h.started⟩
  | inr he => exact he ▸ h.drivers

private theorem ne_nil (h : Underway vendor past) : past ≠ [] := List.ne_nil_of_mem h.begun

/-- The devices of a known driver may be asked for. -/
theorem permitted_devices (h : Underway vendor past) {driver : DriverHandle}
    (hknown : KnownDriver vendor past driver) : Permitted vendor past (.devices driver) where
  first := iff_of_false nofun h.ne_nil
  unfailed := fun _ _ hq ↦ h.answered hq
  driver := by
    intro driver' he
    cases he
    exact hknown
  device := nofun
  module := nofun
  whole := by
    rintro device (he | he)
    · cases he
    · cases he
  state := nofun

/-- A known device may be asked about, but only a whole one about its modules and its location. -/
theorem permitted_of_device (h : Underway vendor past) (hq : q.device? = some device)
    (hknown : KnownDevice vendor past device ∨ KnownPart vendor past device)
    (hwhole : q = .modules device ∨ q = .location device → KnownDevice vendor past device) :
    Permitted vendor past q where
  first := by
    apply iff_of_false
    · rintro rfl
      cases hq
    · exact h.ne_nil
  unfailed := fun _ _ hq ↦ h.answered hq
  driver := by
    rintro driver rfl
    cases hq
  device := by
    intro device' hq'
    rw [hq, Option.some.injEq] at hq'
    exact hq' ▸ hknown
  module := by
    intro handle hm
    rw [Query.module?_eq_none hq] at hm
    cases hm
  whole := by
    intro device' hq'
    have hdevice : q.device? = some device' := by
      cases hq' with
      | inl he => rw [he]; rfl
      | inr he => rw [he]; rfl
    rw [hq, Option.some.injEq] at hdevice
    subst hdevice
    exact hwhole hq'
  state := by
    rintro handle rfl
    cases hq

/-- A known module may be asked about, for its state only right after it was described without a
size. -/
theorem permitted_of_module (h : Underway vendor past) (hq : q.module? = some handle)
    (hknown : KnownModule vendor past handle)
    (hstate : q = .moduleState handle → past.getLast? = some (.moduleProperties handle) ∧
      ∃ p, vendor (.moduleProperties handle) = .ok p ∧ p.physicalSize = 0) :
    Permitted vendor past q where
  first := by
    apply iff_of_false
    · rintro rfl
      cases hq
    · exact h.ne_nil
  unfailed := fun _ _ hq ↦ h.answered hq
  driver := by
    rintro driver rfl
    cases hq
  device := by
    intro device hd
    rw [Query.module?_eq_none hd] at hq
    cases hq
  module := by
    intro handle' hq'
    rw [hq, Option.some.injEq] at hq'
    exact hq' ▸ hknown
  whole := by
    rintro device (rfl | rfl)
    · cases hq
    · cases hq
  state := by
    rintro handle' rfl
    cases hq
    exact hstate rfl

end Underway

end Permitted

/-- Queries are in order if each may be put after those of the past and those before it. -/
def InOrder (vendor : Answers) : List Query → List Query → Prop
  | _, [] => True
  | past, q :: qs => Permitted vendor past q ∧ InOrder vendor (past ++ [q]) qs

/-- Queries are in order if the first ones are, and then the others. -/
theorem inOrder_append {vendor : Answers} {past first second : List Query} :
    InOrder vendor past (first ++ second) ↔
      InOrder vendor past first ∧ InOrder vendor (past ++ first) second := by
  induction first generalizing past with
  | nil => simp only [InOrder, List.nil_append, List.append_nil, true_and]
  | cons q first ih =>
    simp only [InOrder, List.cons_append, ih, List.append_assoc, List.nil_append, and_assoc]

/-- Of queries in order each may be put after those before it. -/
theorem InOrder.permitted {vendor : Answers} {past before qs : List Query} {q : Query}
    (h : InOrder vendor past qs) (hq : before ++ [q] <+: qs) :
    Permitted vendor (past ++ before) q := by
  obtain ⟨after, rfl⟩ := hq
  rw [inOrder_append, inOrder_append] at h
  exact h.1.2.1

private theorem inOrder_of_forall {vendor : Answers} {past qs : List Query}
    (h : ∀ q ∈ qs, ∀ past', past ⊆ past' → Permitted vendor past' q) : InOrder vendor past qs := by
  induction qs generalizing past with
  | nil => trivial
  | cons q qs ih =>
    constructor
    · exact h q List.mem_cons_self past (List.Subset.refl past)
    · apply ih
      intro q' hq' past' hp
      exact h q' (List.mem_cons_of_mem q hq') past' fun _ hm ↦ hp (List.mem_append_left _ hm)

end Vendor

/-- A computation puts its queries in order once some queries have been put, whatever else has
been. -/
def Orderly {α : Type} (vendor : Answers) (known : List Query) (x : Described α) : Prop :=
  ∀ past, known ⊆ past → InOrder vendor past (Event.queries x.events)

section Orderly

variable {α β : Type} {vendor : Answers} {known known' : List Query}

/-- What asks nothing is orderly. -/
theorem orderly_of_queries_eq_nil {x : Described α} (h : Event.queries x.events = []) :
    Orderly vendor known x := by
  intro past _
  rw [h]
  trivial

/-- More may have been asked before. -/
theorem Orderly.mono {x : Described α} (h : Orderly vendor known x) (hk : known ⊆ known') :
    Orderly vendor known' x := fun past hp ↦ h past fun _ hq ↦ hp (hk hq)

/-- What asks only queries that may be put from then on is orderly. -/
theorem orderly_of_asks {qs : Query → Prop} {x : Described α} (hx : Asks qs x)
    (h : ∀ q, qs q → ∀ past, known ⊆ past → Permitted vendor past q) : Orderly vendor known x := by
  intro past hp
  apply inOrder_of_forall
  intro q hq past' hp'
  exact h q (hx.of_mem hq) past' fun _ hm ↦ hp' (hp hm)

/-- A step that follows an orderly one can rely on what that has asked. -/
theorem orderly_bind {x : Described α} {f : α → Described β} (hx : Orderly vendor known x)
    (hf : Orderly vendor (known ++ Event.queries x.events) (f x.value)) :
    Orderly vendor known (x >>= f) := by
  intro past hp
  rw [Traced.events_bind, Event.queries_append, inOrder_append]
  constructor
  · exact hx past hp
  · apply hf
    apply List.append_subset.mpr
    constructor
    · exact fun _ hq ↦ List.mem_append_left _ (hp hq)
    · exact List.subset_append_right _ _

/-- A step that relies on nothing that the one before it has asked. -/
theorem orderly_bind_apart {x : Described α} {f : α → Described β} (hx : Orderly vendor known x)
    (hf : ∀ a, Orderly vendor known (f a)) : Orderly vendor known (x >>= f) :=
  orderly_bind hx ((hf _).mono (List.subset_append_left _ _))

/-- Mapping asks nothing more. -/
theorem orderly_map {x : Described α} (f : α → β) (hx : Orderly vendor known x) :
    Orderly vendor known (f <$> x) := by
  intro past hp
  rw [Traced.events_map]
  exact hx past hp

/-- Collecting is orderly if it is for each element. -/
theorem orderly_collect {f : α → Described β} {xs : List α}
    (hf : ∀ x ∈ xs, Orderly vendor known (f x)) : Orderly vendor known (Traced.collect f xs) := by
  induction xs with
  | nil => exact orderly_of_queries_eq_nil rfl
  | cons x xs ih =>
    have hxs := ih fun y hy ↦ hf y (List.mem_cons_of_mem x hy)
    rw [Traced.collect_cons]
    exact orderly_bind_apart (hf x List.mem_cons_self) fun y ↦ orderly_map _ hxs

/-- A loop is orderly if its body is for each element. -/
theorem orderly_foldlM {f : β → α → Described β} {xs : List α}
    (hf : ∀ b, ∀ x ∈ xs, Orderly vendor known (f b x)) (b : β) :
    Orderly vendor known (xs.foldlM f b) := by
  induction xs generalizing b with
  | nil => exact orderly_of_queries_eq_nil rfl
  | cons x xs ih =>
    rw [List.foldlM_cons]
    apply orderly_bind_apart (hf b x List.mem_cons_self)
    exact ih fun b y hy ↦ hf b y (List.mem_cons_of_mem x hy)

end Orderly

end AcceleratorTopology
