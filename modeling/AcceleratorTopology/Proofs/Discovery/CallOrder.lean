import AcceleratorTopology.Proofs.Device.CallOrder
import AcceleratorTopology.Proofs.Discovery.SharedChoice

/-!
# The order of the queries of a pass

A pass starts the interface, lists the drivers, and then goes from driver to driver and from device
to device. What it asks about was listed by itself, earlier on, and it never goes on after a failure
to start or to list the drivers.
-/

namespace AcceleratorTopology

open Vendor Settings

section Steps

variable {vendor : Answers} {known : List Query}

/-- A known device is described and placed in order. -/
theorem orderly_discoverDevice (h : Underway vendor known) {numbered : DeviceHandle × Nat}
    (hknown : KnownDevice vendor known numbered.1) (config : Configuration) (switch : SysmanState)
    (driver : Nat) (p : Progress) :
    Orderly vendor known (discoverDevice vendor config switch driver p numbered) := by
  have hvisit : discoverDevice vendor config switch driver p numbered =
      visit vendor config switch p (.device ⟨driver, numbered.2, numbered.1⟩) := rfl
  rw [hvisit, visit_device]
  apply orderly_bind_apart (orderly_describe h hknown config switch _)
  intro described
  apply orderly_map
  apply orderly_of_asks (asks_placeDevice vendor p.topology numbered.1 described.2)
  rintro q rfl past hp
  apply (h.mono hp).permitted_of_device rfl (Or.inl (hknown.mono hp))
  exact fun _ ↦ hknown.mono hp

private theorem orderly_discoverDriver (h : Underway vendor known) {numbered : DriverHandle × Nat}
    (hknown : KnownDriver vendor known numbered.1) (config : Configuration) (switch : SysmanState)
    (p : Progress) : Orderly vendor known (discoverDriver vendor config switch p numbered) := by
  have hlist : Asks (· = .devices numbered.1) (ask vendor (.devices numbered.1)) := asks_ask rfl
  apply orderly_bind
  · apply orderly_of_asks hlist
    rintro q rfl past hp
    exact (h.mono hp).permitted_devices (hknown.mono hp)
  · rw [value_ask]
    cases hv : vendor (.devices numbered.1) with
    | error fault => exact orderly_of_queries_eq_nil rfl
    | ok devices =>
      apply orderly_foldlM
      intro p device hdevice
      apply orderly_discoverDevice (h.mono (List.subset_append_left _ _))
      refine ⟨numbered.1, List.mem_append_right known (List.mem_singleton_self _), ?_⟩
      rw [hv]
      exact List.fst_mem_of_mem_zipIdx hdevice

end Steps

/-- A pass puts all its queries in order. -/
theorem inOrder_runPass (vendor : Answers) (config : Configuration) (switch : SysmanState)
    (choice : MemoryChoice) (t : Topology) :
    InOrder vendor [] (Pass.queries (runPass vendor config switch choice t)) := by
  have hinit : Permitted vendor [] .init :=
    ⟨iff_of_true rfl rfl, nofun, nofun, nofun, nofun, nofun, nofun⟩
  -- Being first is lost once anything has been asked, so the start and the list of drivers are put
  -- in order by hand; from then on more of the past does no harm.
  unfold runPass
  split
  · trivial
  · rw [Pass.queries, Traced.events_bind, Event.queries_append, value_ask]
    refine ⟨hinit, ?_⟩
    cases hstart : vendor .init with
    | error fault => trivial
    | ok _ =>
      have hdrivers : Permitted vendor [.init] .drivers := by
        refine ⟨iff_of_false nofun nofun, ?_, nofun, nofun, nofun, nofun, nofun⟩
        intro q hq _
        rw [List.mem_singleton.mp hq]
        exact ⟨(), hstart⟩
      dsimp only
      rw [Traced.events_bind, Event.queries_append, value_ask]
      refine ⟨hdrivers, ?_⟩
      cases hlist : vendor .drivers with
      | error fault => trivial
      | ok drivers =>
        have hunderway : Underway vendor [.init, .drivers] :=
          ⟨List.mem_cons_self, hstart, drivers, hlist⟩
        have hloop : Orderly vendor [.init, .drivers] (drivers.zipIdx.foldlM
            (discoverDriver vendor config switch) { topology := t, choice }) := by
          apply orderly_foldlM
          intro p numbered hn
          apply orderly_discoverDriver hunderway
          refine ⟨List.mem_cons_of_mem _ List.mem_cons_self, ?_⟩
          rw [hlist]
          exact List.fst_mem_of_mem_zipIdx hn
        exact hloop _ (List.Subset.refl _)

private theorem mem_queries_foldlM {α σ : Type} {f : σ → α → Described σ} {xs : List α} {x : α}
    {q : Query} (hx : x ∈ xs) (h : ∀ s, q ∈ Event.queries (f s x).events) (s : σ) :
    q ∈ Event.queries (xs.foldlM f s).events := by
  induction xs generalizing s with
  | nil => cases hx
  | cons y ys ih =>
    rw [List.foldlM_cons, Traced.events_bind, Event.queries_append, List.mem_append]
    cases List.mem_cons.mp hx with
    | inl he => exact Or.inl (he ▸ h s)
    | inr hlater => exact Or.inr (ih hlater _)

private theorem location_mem_queries_visit (vendor : Answers) (config : Configuration)
    (switch : SysmanState) (s : Site) (p : Progress) :
    .location s.device ∈ Event.queries (visit vendor config switch p (.device s)).events := by
  have hask : Event.queries (ask vendor (.location s.device)).events = [.location s.device] := rfl
  simp only [visit_device, placeDevice, locate, Traced.events_bind, Traced.events_map,
    Event.queries_append, hask, List.mem_append, List.mem_singleton, true_or, or_true]

/-- A pass asks for the location of every device that it comes to. -/
theorem location_mem_queries_runPass (vendor : Answers) (config : Configuration)
    (switch : SysmanState) (choice : MemoryChoice) {t : Topology} {s : Site}
    (hs : s ∈ sites vendor t) :
    .location s.device ∈ Pass.queries (runPass vendor config switch choice t) := by
  rw [sites, ← filterMap_visits, List.mem_filterMap] at hs
  obtain ⟨v, hv, hsite⟩ := hs
  rw [Pass.queries, runPass_eq, Traced.events_bind, Event.queries_append, List.mem_append]
  apply Or.inr
  apply mem_queries_foldlM hv
  cases v with
  | driver number handle => cases hsite
  | device s' =>
    cases hsite
    exact location_mem_queries_visit vendor config switch s

/-- Every query of a pass is permitted after those before it. The interface is started once, before
anything else, and nothing follows when it does not start or the drivers cannot be listed; drivers,
devices and modules are asked about after the pass itself has listed them, modules and locations of
whole devices only, and the state of a module right after its own description gave no size. For all
that the pass leaves no device out. -/
theorem queries_permitted (vendor : Answers) (config : Configuration) (switch : SysmanState)
    (choice : MemoryChoice) (t : Topology) :
    let queries := Pass.queries (runPass vendor config switch choice t)
    (∀ past q, past ++ [q] <+: queries → Permitted vendor past q) ∧
    ∀ s ∈ sites vendor t, .location s.device ∈ queries := by
  constructor
  · intro past q h
    exact (inOrder_runPass vendor config switch choice t).permitted h
  · intro s hs
    exact location_mem_queries_runPass vendor config switch choice hs

/-- A vendor whose one device has a module that gives its size in its live state only. -/
def unsizedVendor : Answers
  | .init => .ok ()
  | .drivers => .ok [⟨1⟩]
  | .devices _ => .ok [⟨7⟩]
  | .modules _ => .ok [⟨9⟩]
  | .moduleProperties _ => .ok ⟨0, false, 0, 0, 0, 0, 0⟩
  | .moduleState _ => .ok ⟨0, 0, 4096⟩
  | q => .error (.missingEntry q.entryPoint.symbol)

/-- The state of the module is asked for, right after its description. -/
theorem unsized_queries_permitted :
    let past : List Query := [.init, .drivers, .devices ⟨1⟩, .properties ⟨7⟩, .identity ⟨7⟩,
      .queueGroups ⟨7⟩, .subdevices ⟨7⟩, .modules ⟨7⟩, .moduleProperties ⟨9⟩]
    let queries :=
      Pass.queries (runPass unsizedVendor {} .enabled ⟨.auto, .unresolved⟩ Topology.bare)
    queries = past ++ [.moduleState ⟨9⟩, .location ⟨7⟩] ∧
      Permitted unsizedVendor past (.moduleState ⟨9⟩) := by
  refine ⟨rfl, ?_⟩
  apply (queries_permitted unsizedVendor {} .enabled ⟨.auto, .unresolved⟩ Topology.bare).1
  exact ⟨[.location ⟨7⟩], rfl⟩

end AcceleratorTopology
