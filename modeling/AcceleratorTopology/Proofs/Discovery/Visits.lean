import AcceleratorTopology.Proofs.Device.Agreement
import AcceleratorTopology.Proofs.Device.Drafting
import AcceleratorTopology.Discovery.Basic
import Mathlib.Data.List.Induction

/-!
# The course of a pass

A pass is a loop over drivers with a loop over devices inside. Written out it is a single list of
visits, known from what the vendor answers about drivers and devices alone, so that what holds of
a pass can be proved visit by visit. The devices among the visits are the sites of the pass.
-/

namespace AcceleratorTopology

open Vendor Settings Drafts

/-- A device where it is listed: the number of its driver, and its number in that driver's list. -/
structure Site where
  driver : Nat
  position : Nat
  device : DeviceHandle
  deriving DecidableEq, Repr

/-- Whether a site comes before another in the order of drivers, then of their lists. -/
def Site.Before (a b : Site) : Prop :=
  a.driver < b.driver ∨ a.driver = b.driver ∧ a.position < b.position

/-- A stop on the course of a pass. -/
inductive Visit where
  | driver (number : Nat) (handle : DriverHandle)
  | device (site : Site)
  deriving DecidableEq, Repr

/-- The site of a visit to a device. -/
def Visit.site? : Visit → Option Site
  | driver _ _ => none
  | device site => some site

/-- The sites of a driver. -/
def sitesOf (vendor : Answers) (numbered : DriverHandle × Nat) : List Site :=
  match vendor (.devices numbered.1) with
  | .ok devices => devices.zipIdx.map fun device ↦ ⟨numbered.2, device.2, device.1⟩
  | .error _ => []

/-- The visits to some drivers and their devices. -/
def visits (vendor : Answers) (drivers : List DriverHandle) : List Visit :=
  drivers.zipIdx.flatMap fun numbered ↦
    .driver numbered.2 numbered.1 :: (sitesOf vendor numbered).map .device

/-- One visit. A driver is only asked for its devices. -/
def visit (vendor : Answers) (config : Configuration) (switch : SysmanState) (p : Progress) :
    Visit → Described Progress
  | .driver number handle => do
    if let .error fault := ← ask vendor (.devices handle) then
      takeNote s!"driver #{number}: {fault.message}"
    return p
  | .device site => discoverDevice vendor config switch site.driver p (site.device, site.position)

/-- What comes before the visits: the drivers, none if there is nothing to visit. -/
def opening (vendor : Answers) (t : Topology) : Described (List DriverHandle) := do
  if t.retentions.get .osDevice = .keepNone then return []
  match (← ask vendor .init) with
  | .error fault =>
    raiseWarning .runtimeInit false s!"Failed to initialize Level Zero in zeInit(): {fault.message}"
    return []
  | .ok () =>
    match (← ask vendor .drivers) with
    | .error fault =>
      takeNote fault.message
      return []
    | .ok drivers => return drivers

/-- The sites of a pass, in order. -/
def sites (vendor : Answers) (t : Topology) : List Site :=
  (opening vendor t).value.zipIdx.flatMap (sitesOf vendor)

/-- A visit to a driver makes no progress. -/
@[simp] theorem value_visit_driver (vendor : Answers) (config : Configuration)
    (switch : SysmanState) (p : Progress) (number : Nat) (handle : DriverHandle) :
    (visit vendor config switch p (.driver number handle)).value = p := by
  cases h : vendor (.devices handle) <;> simp [visit, h]

/-- A device that is visited is described and then placed. -/
theorem visit_device (vendor : Answers) (config : Configuration) (switch : SysmanState)
    (p : Progress) (s : Site) :
    visit vendor config switch p (.device s) =
      describe vendor config switch p.choice
          ⟨p.placements.length, s.driver, s.position, s.device⟩ >>=
        fun described ↦
          (fun placed ↦ ⟨placed.1, described.1, p.placements ++ [placed.2]⟩) <$>
            placeDevice vendor p.topology s.device described.2 := by
  simp only [visit, discoverDevice, draftDevice_eq, bind_map_left, placeDrafts,
    handOver_ofDescription]
  rfl

/-- How far a visit to a device comes. -/
theorem value_visit_device (vendor : Answers) (config : Configuration) (switch : SysmanState)
    (p : Progress) (s : Site) :
    (visit vendor config switch p (.device s)).value =
      let described := (describe vendor config switch p.choice
        ⟨p.placements.length, s.driver, s.position, s.device⟩).value
      let placed := (placeDevice vendor p.topology s.device described.2).value
      ⟨placed.1, described.1, p.placements ++ [placed.2]⟩ := by
  rw [visit_device, Traced.value_bind, Traced.value_map]

private theorem discoverDriver_eq (vendor : Answers) (config : Configuration) (switch : SysmanState)
    (p : Progress) (numbered : DriverHandle × Nat) :
    discoverDriver vendor config switch p numbered =
      (Visit.driver numbered.2 numbered.1 :: (sitesOf vendor numbered).map .device).foldlM
        (visit vendor config switch) p := by
  rw [List.foldlM_cons, discoverDriver, visit, bind_assoc]
  apply Traced.bind_congr_value
  rw [value_ask, sitesOf]
  cases vendor (.devices numbered.1) with
  | error fault => rfl
  | ok devices =>
    rw [pure_bind, List.map_map, List.foldlM_map]
    rfl

/-- The loop over drivers, as visits. -/
theorem foldlM_discoverDriver (vendor : Answers) (config : Configuration) (switch : SysmanState)
    (p : Progress) (numbered : List (DriverHandle × Nat)) :
    numbered.foldlM (discoverDriver vendor config switch) p =
      (numbered.flatMap fun n ↦ Visit.driver n.2 n.1 :: (sitesOf vendor n).map .device).foldlM
        (visit vendor config switch) p := by
  induction numbered generalizing p with
  | nil => rfl
  | cons n numbered ih =>
    rw [List.foldlM_cons, List.flatMap_cons, List.foldlM_append, discoverDriver_eq]
    exact bind_congr fun p ↦ ih p

/-- A pass is its opening and then its visits. -/
theorem runPass_eq (vendor : Answers) (config : Configuration) (switch : SysmanState)
    (choice : MemoryChoice) (t : Topology) :
    runPass vendor config switch choice t =
      opening vendor t >>= fun drivers ↦
        (visits vendor drivers).foldlM (visit vendor config switch) { topology := t, choice } := by
  unfold runPass opening
  split
  · rfl
  · rw [bind_assoc]
    apply bind_congr
    intro started
    cases started with
    | error fault => rfl
    | ok _ =>
      rw [bind_assoc]
      apply bind_congr
      intro listed
      cases listed with
      | error fault => rfl
      | ok drivers =>
        rw [pure_bind]
        exact foldlM_discoverDriver _ _ _ _ _

/-- The sites are the devices among the visits. -/
theorem filterMap_visits (vendor : Answers) (drivers : List DriverHandle) :
    (visits vendor drivers).filterMap Visit.site? = drivers.zipIdx.flatMap (sitesOf vendor) := by
  rw [visits, List.filterMap_flatMap]
  apply List.flatMap_congr
  intro numbered _
  have h : Visit.site? ∘ Visit.device = some := rfl
  rw [List.filterMap_cons, Visit.site?, List.filterMap_map, h, List.filterMap_some]

private theorem foldl_visit (vendor : Answers) (config : Configuration) (switch : SysmanState)
    (p : Progress) (vs : List Visit) :
    vs.foldl (fun p v ↦ (visit vendor config switch p v).value) p =
      (vs.filterMap Visit.site?).foldl
        (fun p s ↦ (visit vendor config switch p (.device s)).value) p := by
  induction vs generalizing p with
  | nil => rfl
  | cons v vs ih =>
    cases v with
    | driver number handle =>
      rw [List.foldl_cons, value_visit_driver, ih, List.filterMap_cons]
      rfl
    | device site =>
      rw [List.foldl_cons, ih, List.filterMap_cons]
      rfl

/-- A pass comes as far as the visits to its sites, one after another. -/
theorem value_runPass (vendor : Answers) (config : Configuration) (switch : SysmanState)
    (choice : MemoryChoice) (t : Topology) :
    (runPass vendor config switch choice t).value =
      (sites vendor t).foldl (fun p s ↦ (visit vendor config switch p (.device s)).value)
        { topology := t, choice } := by
  rw [runPass_eq, Traced.value_bind, Traced.value_foldlM, foldl_visit, filterMap_visits, sites]

/-- What holds at the start and is kept by each visit to a device, as more sites are done, holds
at the end of a pass. -/
theorem runPass_induction {vendor : Answers} {config : Configuration} {switch : SysmanState}
    {choice : MemoryChoice} {t : Topology} (motive : List Site → Progress → Prop)
    (start : motive [] { topology := t, choice })
    (step : ∀ done p s, motive done p →
      motive (done ++ [s]) (visit vendor config switch p (.device s)).value) :
    motive (sites vendor t) (runPass vendor config switch choice t).value := by
  rw [value_runPass]
  generalize sites vendor t = l
  induction l using List.reverseRecOn with
  | nil => exact start
  | append_singleton done s ih =>
    rw [List.foldl_append, List.foldl_cons, List.foldl_nil]
    exact step done _ s ih

/-- What holds of a device once it is visited, and is kept by later visits, holds of every site of a
pass and its placement at the end. It may be about how far the pass has come. On the way each visit
keeps `inv`. -/
theorem runPass_stages {vendor : Answers} {config : Configuration} {switch : SysmanState}
    {choice : MemoryChoice} {t : Topology} (inv : Progress → Prop)
    (motive : Progress → Nat → Site → Placement → Prop) (start : inv { topology := t, choice })
    (step : ∀ p s, inv p → inv (visit vendor config switch p (.device s)).value)
    (placed : ∀ p s placement, inv p →
      (visit vendor config switch p (.device s)).value.placements = p.placements ++ [placement] →
      motive (visit vendor config switch p (.device s)).value p.placements.length s placement)
    (kept : ∀ p s, inv p → ∀ n s' placement, motive p n s' placement →
      motive (visit vendor config switch p (.device s)).value n s' placement) :
    let final := (runPass vendor config switch choice t).value
    final.placements.length = (sites vendor t).length ∧
      ∀ n s placement, (sites vendor t)[n]? = some s → final.placements[n]? = some placement →
        motive final n s placement := by
  intro final
  refine (runPass_induction (fun done p ↦ inv p ∧ p.placements.length = done.length ∧
    ∀ n s placement, done[n]? = some s → p.placements[n]? = some placement →
      motive p n s placement) ⟨start, rfl, nofun⟩ ?_).2
  rintro done p s ⟨hinv, hlength, hshows⟩
  have hvalue := value_visit_device vendor config switch p s
  have hplacements := congrArg Progress.placements hvalue
  refine ⟨step p s hinv, ?_, ?_⟩
  · rw [hplacements, List.length_append, List.length_append, hlength]
    rfl
  · intro n s' placement hs hplacement
    by_cases hn : n < done.length
    · have hn' : n < p.placements.length := hlength ▸ hn
      rw [List.getElem?_append_left hn] at hs
      rw [hplacements, List.getElem?_append_left hn'] at hplacement
      exact kept p s hinv n s' placement (hshows n s' placement hs hplacement)
    · -- The last site is the one just visited, and its number counts those before it.
      have hlast : n = done.length := by
        have hlt := (List.getElem?_eq_some_iff.mp hs).1
        rw [List.length_append, List.length_singleton] at hlt
        omega
      subst hlast
      rw [List.getElem?_append_right (Nat.le_refl _), Nat.sub_self] at hs
      rw [← hlength, hplacements, List.getElem?_append_right (Nat.le_refl _),
        Nat.sub_self] at hplacement
      cases hs
      cases hplacement
      rw [← hlength]
      exact placed p s _ hinv hplacements

/-- What holds of a device once it is visited, and is kept by later visits, holds of every site of a
pass and its placement at the end. On the way each visit keeps `inv`. -/
theorem runPass_placements {vendor : Answers} {config : Configuration} {switch : SysmanState}
    {choice : MemoryChoice} {t : Topology} (inv : Progress → Prop)
    (motive : Topology → Nat → Site → Placement → Prop) (start : inv { topology := t, choice })
    (step : ∀ p s, inv p → inv (visit vendor config switch p (.device s)).value)
    (placed : ∀ p s placement, inv p →
      (visit vendor config switch p (.device s)).value.placements = p.placements ++ [placement] →
      motive (visit vendor config switch p (.device s)).value.topology p.placements.length s
        placement)
    (kept : ∀ p s, inv p → ∀ n s' placement, motive p.topology n s' placement →
      motive (visit vendor config switch p (.device s)).value.topology n s' placement) :
    let final := (runPass vendor config switch choice t).value
    final.placements.length = (sites vendor t).length ∧
      ∀ n s placement, (sites vendor t)[n]? = some s → final.placements[n]? = some placement →
        motive final.topology n s placement :=
  runPass_stages inv (fun p ↦ motive p.topology) start step placed kept

/-- The sites of a driver are the devices that it lists. -/
theorem sitesOf_eq_listed (vendor : Answers) (numbered : DriverHandle × Nat) :
    sitesOf vendor numbered = (listed (vendor (.devices numbered.1))).zipIdx.map fun device ↦
      ⟨numbered.2, device.2, device.1⟩ := by
  rw [sitesOf, listed]
  cases vendor (.devices numbered.1) <;> rfl

private theorem mem_sitesOf {vendor : Answers} {numbered : DriverHandle × Nat} {s : Site} :
    s ∈ sitesOf vendor numbered ↔
      s.driver = numbered.2 ∧
        ∃ devices, vendor (.devices numbered.1) = .ok devices ∧
          devices[s.position]? = some s.device := by
  obtain ⟨driver, position, device⟩ := s
  unfold sitesOf
  split
  · next devices h =>
    simp only [List.mem_map, Site.mk.injEq, h, Except.ok.injEq]
    constructor
    · rintro ⟨listed, hm, rfl, rfl, rfl⟩
      exact ⟨rfl, devices, rfl, List.mem_zipIdx_iff_getElem?.mp hm⟩
    · rintro ⟨rfl, _, rfl, hd⟩
      exact ⟨(device, position), List.mem_zipIdx_iff_getElem?.mpr hd, rfl, rfl, rfl⟩
  · next fault h => simp [h]

/-- The sites of some drivers, in order. -/
def allSites (vendor : Answers) (drivers : List DriverHandle) : List Site :=
  drivers.zipIdx.flatMap (sitesOf vendor)

/-- The sites of some drivers are the devices of the lists that they answer with. -/
theorem mem_allSites {vendor : Answers} {drivers : List DriverHandle} {s : Site} :
    s ∈ allSites vendor drivers ↔
      ∃ driver devices, drivers[s.driver]? = some driver ∧
        vendor (.devices driver) = .ok devices ∧ devices[s.position]? = some s.device := by
  simp only [allSites, List.mem_flatMap, mem_sitesOf, Prod.exists, List.mem_zipIdx_iff_getElem?]
  constructor
  · rintro ⟨driver, number, hn, rfl, devices, hv, hd⟩
    exact ⟨driver, devices, hn, hv, hd⟩
  · rintro ⟨driver, devices, hn, hv, hd⟩
    exact ⟨driver, s.driver, hn, rfl, devices, hv, hd⟩

/-- The sites of some drivers come in order, each once. -/
theorem pairwise_allSites (vendor : Answers) (drivers : List DriverHandle) :
    (allSites vendor drivers).Pairwise Site.Before := by
  rw [allSites, List.pairwise_flatMap]
  constructor
  · intro numbered _
    unfold sitesOf
    split
    · next devices _ =>
      rw [List.pairwise_map]
      exact (pairwise_zipIdx devices).imp fun h ↦ Or.inr ⟨rfl, h⟩
    · exact List.Pairwise.nil
  · refine (pairwise_zipIdx _).imp fun {a b} h x hx y hy ↦ Or.inl ?_
    rw [(mem_sitesOf.mp hx).1, (mem_sitesOf.mp hy).1]
    exact h

/-- The sites of a pass are the devices of the drivers that it visits. -/
theorem mem_sites {vendor : Answers} {t : Topology} {s : Site} :
    s ∈ sites vendor t ↔
      ∃ driver devices, (opening vendor t).value[s.driver]? = some driver ∧
        vendor (.devices driver) = .ok devices ∧ devices[s.position]? = some s.device :=
  mem_allSites

/-- The sites of a pass come in order, each once. -/
theorem pairwise_sites (vendor : Answers) (t : Topology) :
    (sites vendor t).Pairwise Site.Before :=
  pairwise_allSites vendor _

/-- The drivers that are visited are those that the vendor lists, if it starts and the topology
keeps devices. -/
theorem value_opening {vendor : Answers} {t : Topology} {drivers : List DriverHandle}
    (hkeep : t.retentions.get .osDevice ≠ .keepNone) (hinit : vendor .init = .ok ())
    (hdrivers : vendor .drivers = .ok drivers) : (opening vendor t).value = drivers := by
  rw [opening, if_neg hkeep, Traced.value_bind, value_ask, hinit, Traced.value_bind, value_ask,
    hdrivers, Traced.value_pure]

/-- The sites of a pass are those of the drivers that the vendor lists, if it starts, unless the
topology keeps no devices. -/
theorem sites_eq {vendor : Answers} {drivers : List DriverHandle} (t : Topology)
    (hinit : vendor .init = .ok ()) (hdrivers : vendor .drivers = .ok drivers) :
    sites vendor t =
      if t.retentions.get .osDevice = .keepNone then [] else allSites vendor drivers := by
  split
  · next hnone =>
    rw [sites, opening, if_pos hnone]
    rfl
  · next hkeep => rw [sites, value_opening hkeep hinit hdrivers, allSites]

end AcceleratorTopology
