import AcceleratorTopology.Proofs.CallOrder

/-!
# The order of queries about a device

Each step of a description puts its queries in order for a device that is known: its subdevices are
asked about once they have been listed, its modules likewise, and the state of a module right after
its description.
-/

namespace AcceleratorTopology

open Vendor Settings

section Device

variable {vendor : Answers} {known : List Query} {device : DeviceHandle}

private theorem orderly_of_device {α : Type} {qs : Query → Prop} {x : Described α} (hx : Asks qs x)
    (h : Underway vendor known) (hknown : KnownDevice vendor known device ∨
      KnownPart vendor known device)
    (hqs : ∀ q, qs q → q.device? = some device ∧ q ≠ .modules device ∧ q ≠ .location device) :
    Orderly vendor known x := by
  apply orderly_of_asks hx
  intro q hq past hp
  obtain ⟨hdevice, hmodules, hlocation⟩ := hqs q hq
  apply (h.mono hp).permitted_of_device hdevice
  · exact hknown.imp (KnownDevice.mono · hp) (KnownPart.mono · hp)
  · rintro (he | he)
    · exact absurd he hmodules
    · exact absurd he hlocation

private theorem orderly_deviceProfile (h : Underway vendor known)
    (hknown : KnownDevice vendor known device ∨ KnownPart vendor known device) (name : String)
    (standing : DeviceStanding) (switch : SysmanState) :
    Orderly vendor known (deviceProfile vendor name device standing switch) := by
  apply orderly_of_device (asks_deviceProfile vendor name device standing switch) h hknown
  rintro q (rfl | rfl)
  · exact ⟨rfl, nofun, nofun⟩
  · exact ⟨rfl, nofun, nofun⟩

private theorem orderly_queueAttributes (h : Underway vendor known)
    (hknown : KnownDevice vendor known device ∨ KnownPart vendor known device) (name : String) :
    Orderly vendor known (queueAttributes vendor name device) := by
  apply orderly_of_device (asks_queueAttributes vendor name device) h hknown
  rintro q rfl
  exact ⟨rfl, nofun, nofun⟩

private theorem orderly_subdevicesOf (h : Underway vendor known)
    (hknown : KnownDevice vendor known device ∨ KnownPart vendor known device) (name : String) :
    Orderly vendor known (subdevicesOf vendor name device) := by
  apply orderly_of_device (asks_subdevicesOf vendor name device) h hknown
  rintro q rfl
  exact ⟨rfl, nofun, nofun⟩

private theorem orderly_memoryOf (h : Underway vendor known) {named : NamedDevice}
    (hknown : KnownDevice vendor known named.handle ∨ KnownPart vendor known named.handle)
    (ignoreDdr : Bool) : Orderly vendor known (memoryOf vendor ignoreDdr named) := by
  apply orderly_of_device (asks_memoryOf vendor ignoreDdr named) h hknown
  rintro q rfl
  exact ⟨rfl, nofun, nofun⟩

private theorem knownPart_of_mem {past : List Query} {part : DeviceHandle}
    (hpast : .subdevices device ∈ past) (hmem : part ∈ subdeviceHandles vendor device) :
    KnownPart vendor past part := by
  rw [subdeviceHandles_eq_listed] at hmem
  exact ⟨device, hpast, hmem⟩

private theorem orderly_describePart (h : Underway vendor known)
    (hknown : KnownPart vendor known device) (switch : SysmanState) (whole : String) (k : Nat) :
    Orderly vendor known (describePart vendor switch whole k device) := by
  apply orderly_bind_apart (orderly_deviceProfile h (Or.inr hknown) _ _ _)
  intro profile
  apply orderly_bind_apart (orderly_queueAttributes h (Or.inr hknown) _)
  intro queues
  exact orderly_of_queries_eq_nil rfl

private theorem queries_subdevicesOf (vendor : Answers) (name : String) (device : DeviceHandle) :
    Event.queries (subdevicesOf vendor name device).events = [.subdevices device] := by
  rw [subdevicesOf, Traced.events_bind, Event.queries_append, value_ask]
  cases vendor (.subdevices device) <;> rfl

/-- The survey of a known device is asked for in order. -/
theorem orderly_surveyDevice (h : Underway vendor known) {listing : Listing}
    (hknown : KnownDevice vendor known listing.device) (config : Configuration)
    (switch : SysmanState) :
    Orderly vendor known (surveyDevice vendor config switch listing) := by
  have hwhole := Or.inl (b := KnownPart vendor known listing.device) hknown
  apply orderly_bind_apart (orderly_deviceProfile h hwhole _ _ _)
  intro profile
  apply orderly_bind_apart (orderly_queueAttributes h hwhole _)
  intro queues
  apply orderly_bind (orderly_subdevicesOf h hwhole _)
  rw [value_subdevicesOf, queries_subdevicesOf]
  refine orderly_bind_apart (orderly_collect fun numbered hn ↦ ?_) fun parts ↦
    orderly_of_queries_eq_nil rfl
  apply orderly_describePart (h.mono (List.subset_append_left _ _))
  apply knownPart_of_mem
  · exact List.mem_append_right known (List.mem_singleton_self _)
  · exact List.fst_mem_of_mem_zipIdx hn

private theorem subdevices_mem_queries_surveyDevice (vendor : Answers) (config : Configuration)
    (switch : SysmanState) (listing : Listing) :
    .subdevices listing.device ∈
      Event.queries (surveyDevice vendor config switch listing).events := by
  simp only [surveyDevice, Traced.events_bind, Event.queries_append, queries_subdevicesOf,
    List.mem_append, List.mem_singleton, true_or, or_true]

end Device

section Memory

variable {vendor : Answers} {known : List Query} {family : DeviceFamily}

private theorem queries_effectiveSize (vendor : Answers) (m : Nat) (handle : ModuleHandle)
    (p : ModuleDescription) :
    Event.queries (effectiveSize vendor m handle p).events =
      if p.physicalSize = 0 then [.moduleState handle] else [] := by
  by_cases hsize : p.physicalSize = 0
  · rw [effectiveSize, if_neg fun hne ↦ hne hsize, if_pos hsize, Traced.events_bind,
      Event.queries_append, value_ask]
    cases vendor (.moduleState handle) <;> rfl
  · rw [effectiveSize, if_pos hsize, if_neg hsize]
    rfl

private theorem queries_readModule (vendor : Answers) (parts m : Nat) (handle : ModuleHandle) :
    Event.queries (readModule vendor parts m handle).events =
      .moduleProperties handle ::
        match vendor (.moduleProperties handle) with
        | .ok p => if p.physicalSize = 0 then [.moduleState handle] else []
        | .error _ => [] := by
  have hask : Event.queries (ask vendor (.moduleProperties handle)).events =
      [.moduleProperties handle] := rfl
  rw [readModule, Traced.events_bind, Event.queries_append, value_ask, hask, List.singleton_append]
  apply congrArg (List.cons _)
  cases vendor (.moduleProperties handle) with
  | error fault => rfl
  | ok p =>
    dsimp only
    rw [Traced.events_bind, Event.queries_append, queries_effectiveSize, List.append_right_eq_self,
      Traced.events_bind, Event.queries_append]
    split <;> rfl

private theorem orderly_readModule (h : Underway vendor known) {handle : ModuleHandle}
    (hknown : KnownModule vendor known handle) (parts m : Nat) :
    Orderly vendor known (readModule vendor parts m handle) := by
  intro past hp
  rw [queries_readModule]
  constructor
  · apply (h.mono hp).permitted_of_module rfl (hknown.mono hp)
    intro he
    cases he
  · cases hv : vendor (.moduleProperties handle) with
    | error fault => trivial
    | ok p =>
      dsimp only
      split
      · next hsize =>
        -- The past ends with the description that has just been read, whatever it began with.
        have hlater : known ⊆ past ++ [.moduleProperties handle] :=
          fun _ hq ↦ List.mem_append_left _ (hp hq)
        refine ⟨?_, trivial⟩
        apply (h.mono hlater).permitted_of_module rfl (hknown.mono hlater)
        intro _
        exact ⟨List.getLast?_concat, p, hv, hsize⟩
      · trivial

private theorem orderly_memoryFromModules (h : Underway vendor known)
    (hwhole : KnownDevice vendor known family.whole.handle) :
    Orderly vendor known (memoryFromModules vendor family) := by
  have hlist : Asks (· = .modules family.whole.handle)
      (ask vendor (.modules family.whole.handle)) := asks_ask rfl
  apply orderly_bind
  · apply orderly_of_asks hlist
    rintro q rfl past hp
    apply (h.mono hp).permitted_of_device rfl (Or.inl (hwhole.mono hp))
    exact fun _ ↦ hwhole.mono hp
  · rw [value_ask]
    cases hm : vendor (.modules family.whole.handle) with
    | error fault => exact orderly_of_queries_eq_nil rfl
    | ok handles =>
      refine orderly_bind_apart (orderly_collect fun numbered hn ↦ ?_) fun readings ↦
        orderly_of_queries_eq_nil rfl
      apply orderly_readModule (h.mono (List.subset_append_left _ _))
      refine ⟨family.whole.handle, List.mem_append_right known (List.mem_singleton_self _), ?_⟩
      rw [hm]
      exact List.fst_mem_of_mem_zipIdx hn

private theorem orderly_coreEntries (h : Underway vendor known)
    (hwhole : KnownDevice vendor known family.whole.handle)
    (hparts : ∀ part ∈ family.parts, KnownPart vendor known part.handle) (choice : MemoryChoice) :
    Orderly vendor known (coreEntries vendor family choice) := by
  apply orderly_bind_apart
  · apply orderly_bind_apart (orderly_memoryOf h (Or.inl hwhole) _)
    intro whole
    apply orderly_bind_apart
    · apply orderly_collect
      intro part hpart
      exact orderly_memoryOf h (Or.inr (hparts part hpart)) _
    · exact fun parts ↦ orderly_of_queries_eq_nil rfl
  · exact fun entries ↦ orderly_of_queries_eq_nil rfl

private theorem orderly_sysmanEntries (h : Underway vendor known)
    (hwhole : KnownDevice vendor known family.whole.handle) (choice : MemoryChoice) :
    Orderly vendor known (sysmanEntries vendor family choice) := by
  apply orderly_bind_apart (orderly_memoryFromModules h hwhole)
  intro entries
  cases entries with
  | error fault => exact orderly_of_queries_eq_nil rfl
  | ok entries => exact orderly_of_queries_eq_nil rfl

private theorem orderly_tryModules (h : Underway vendor known)
    (hwhole : KnownDevice vendor known family.whole.handle)
    (hparts : ∀ part ∈ family.parts, KnownPart vendor known part.handle) (choice : MemoryChoice) :
    Orderly vendor known (tryModules vendor family choice) := by
  apply orderly_bind_apart (orderly_memoryFromModules h hwhole)
  intro entries
  cases entries with
  | ok entries => exact orderly_of_queries_eq_nil rfl
  | error fault =>
    apply orderly_bind_apart (orderly_of_queries_eq_nil rfl)
    exact fun _ ↦ orderly_coreEntries h hwhole hparts _

/-- The memory sizes of a known device and its known subdevices are asked for in order. -/
theorem orderly_memorySizes (h : Underway vendor known)
    (hwhole : KnownDevice vendor known family.whole.handle)
    (hparts : ∀ part ∈ family.parts, KnownPart vendor known part.handle) (choice : MemoryChoice) :
    Orderly vendor known (memorySizes vendor family choice) := by
  obtain ⟨preference, source⟩ := choice
  cases source with
  | core => exact orderly_coreEntries h hwhole hparts _
  | sysman => exact orderly_sysmanEntries h hwhole _
  | unresolved =>
    cases preference with
    | auto => exact orderly_tryModules h hwhole hparts _
    | sysman => exact orderly_sysmanEntries h hwhole _
    | core => exact orderly_coreEntries h hwhole hparts _
    | coreWithDdr => exact orderly_coreEntries h hwhole hparts _

end Memory

/-- The description of a known device is asked for in order. -/
theorem orderly_describe {vendor : Answers} {known : List Query} (h : Underway vendor known)
    {listing : Listing} (hknown : KnownDevice vendor known listing.device) (config : Configuration)
    (switch : SysmanState) (choice : MemoryChoice) :
    Orderly vendor known (describe vendor config switch choice listing) := by
  apply orderly_bind (orderly_surveyDevice h hknown config switch)
  have hlater : known ⊆
      known ++ Event.queries (surveyDevice vendor config switch listing).events :=
    List.subset_append_left _ _
  apply orderly_bind_apart
  · apply orderly_memorySizes (h.mono hlater) (hknown.mono hlater)
    intro part hpart
    apply knownPart_of_mem
    · exact List.mem_append_right known
        (subdevices_mem_queries_surveyDevice vendor config switch listing)
    · exact handle_mem_of_surveyDevice hpart
  · exact fun memory ↦ orderly_of_queries_eq_nil rfl

end AcceleratorTopology
