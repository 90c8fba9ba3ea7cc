import AcceleratorTopology.Proofs.Device.MemoryCalls
import AcceleratorTopology.Proofs.Discovery.Visits

/-!
# A choice shared by many calls

However many devices share a choice of memory source, in one pass or in several, the choice is
settled by the first of them and serves all others, whatever is answered later on.
-/

namespace AcceleratorTopology

open Vendor Settings

/-- Placing a device asks for its location. -/
theorem asks_placeDevice (vendor : Answers) (t : Topology) (device : DeviceHandle)
    (d : Description) : Asks (· = .location device) (placeDevice vendor t device d) := by
  refine asks_bind ?_ fun located ↦ asks_pure _
  refine asks_bind (asks_ask rfl) fun answer ↦ ?_
  cases answer with
  | error fault => exact asks_bind (asks_takeNote _) fun _ ↦ asks_pure _
  | ok pci =>
    dsimp only
    split
    · exact asks_bind (asks_takeNote _) fun _ ↦ asks_pure _
    · split
      · exact asks_pure _
      · exact asks_pure _

/-- A visit to a driver asks for its devices. -/
theorem asks_visit_driver (vendor : Answers) (config : Configuration) (switch : SysmanState)
    (p : Progress) (number : Nat) (handle : DriverHandle) :
    Asks (· = .devices handle) (visit vendor config switch p (.driver number handle)) := by
  refine asks_bind (asks_ask rfl) fun answer ↦ ?_
  cases answer with
  | error fault => exact asks_bind (asks_takeNote _) fun _ ↦ asks_pure _
  | ok devices => exact asks_pure _

/-- The opening of a pass asks for the drivers. -/
theorem asks_opening (vendor : Answers) (t : Topology) :
    Asks (fun q ↦ q = .init ∨ q = .drivers) (opening vendor t) := by
  unfold opening
  split
  · exact asks_pure _
  · refine asks_bind (asks_ask (Or.inl rfl)) fun started ↦ ?_
    cases started with
    | error fault => exact asks_bind (asks_raiseWarning _ _ _) fun _ ↦ asks_pure _
    | ok _ =>
      refine asks_bind (asks_ask (Or.inr rfl)) fun listed ↦ ?_
      cases listed with
      | error fault => exact asks_bind (asks_takeNote _) fun _ ↦ asks_pure _
      | ok drivers => exact asks_pure _

private theorem visit_device_call (vendor : Answers) (config : Configuration) (switch : SysmanState)
    (p : Progress) (s : Site) :
    ∃ family : DeviceFamily, family.whole.handle = s.device ∧
      (visit vendor config switch p (.device s)).value.choice =
        (serveCall p.choice ⟨vendor, family⟩).value ∧
      asked Query.isMemoryList (visit vendor config switch p (.device s)) =
        asked Query.isMemoryList (serveCall p.choice ⟨vendor, family⟩) := by
  let listing : Listing := ⟨p.placements.length, s.driver, s.position, s.device⟩
  refine ⟨(surveyDevice vendor config switch listing).value.family, rfl, ?_, ?_⟩
  · rw [visit_device]
    rfl
  · have hplace (d : Description) :
        asked Query.isMemoryList (placeDevice vendor p.topology s.device d) = [] :=
      ((asks_placeDevice _ _ _ _).mono fun _ hq ↦ hq ▸ rfl).asked_eq_nil
    have hsurvey : asked Query.isMemoryList (surveyDevice vendor config switch listing) = [] :=
      (asks_surveyDevice_aside _ _ _ _).asked_eq_nil
    rw [visit_device, asked_bind, asked_map, hplace, List.append_nil, describe, asked_bind,
      hsurvey, List.nil_append, asked_bind, asked_pure, List.append_nil, serveCall, asked_map]

private theorem foldlM_visit_calls (vendor : Answers) (config : Configuration)
    (switch : SysmanState) (vs : List Visit) (p : Progress) :
    ∃ calls : List MemoryCall,
      calls.map (fun call ↦ (call.vendor, call.family.whole.handle)) =
        (vs.filterMap Visit.site?).map (fun s ↦ (vendor, s.device)) ∧
      (vs.foldlM (visit vendor config switch) p).value.choice =
        (calls.foldlM serveCall p.choice).value ∧
      asked Query.isMemoryList (vs.foldlM (visit vendor config switch) p) =
        asked Query.isMemoryList (calls.foldlM serveCall p.choice) := by
  -- The first visit settles the choice that the calls of all later ones start with.
  induction vs generalizing p with
  | nil => exact ⟨[], rfl, rfl, rfl⟩
  | cons v vs ih =>
    obtain ⟨calls, hm, hc, hl⟩ := ih (visit vendor config switch p v).value
    cases v with
    | driver number handle =>
      have hd : asked Query.isMemoryList
          (visit vendor config switch p (.driver number handle)) = [] :=
        ((asks_visit_driver _ _ _ _ _ _).mono fun _ hq ↦ hq ▸ rfl).asked_eq_nil
      rw [value_visit_driver] at hc hl
      refine ⟨calls, hm, ?_, ?_⟩
      · rw [List.foldlM_cons, Traced.value_bind, value_visit_driver, hc]
      · rw [List.foldlM_cons, asked_bind, hd, List.nil_append, value_visit_driver, hl]
    | device s =>
      obtain ⟨family, hf, hv, hq⟩ := visit_device_call vendor config switch p s
      rw [hv] at hc hl
      refine ⟨⟨vendor, family⟩ :: calls, ?_, ?_, ?_⟩
      · rw [List.map_cons, hm, hf]
        rfl
      · rw [List.foldlM_cons, Traced.value_bind, hc, List.foldlM_cons, Traced.value_bind]
      · rw [List.foldlM_cons, asked_bind, hq, hl, List.foldlM_cons, asked_bind]

/-- What a pass is asked for, but the choice that it goes on with. -/
structure PassRequest where
  vendor : Answers
  config : Configuration
  switch : SysmanState
  topology : Topology

/-- The vendor and the device of each site of a pass, in order. -/
def PassRequest.devices (request : PassRequest) : List (Answers × DeviceHandle) :=
  (sites request.vendor request.topology).map fun s ↦ (request.vendor, s.device)

/-- A pass that goes on with a choice and says what the choice is from then on. -/
def servePass (choice : MemoryChoice) (request : PassRequest) : Described MemoryChoice :=
  Progress.choice <$>
    runPass request.vendor request.config request.switch choice request.topology

/-- Passes that share a choice of source, which is open at first. -/
def servePasses (preference : MemoryPreference) (requests : List PassRequest) :
    Described MemoryChoice :=
  requests.foldlM servePass { preference }

/-- A pass is calls for the memory sizes of its devices, as far as the choice and the lists go. -/
theorem servePass_calls (choice : MemoryChoice) (request : PassRequest) :
    ∃ calls : List MemoryCall,
      calls.map (fun call ↦ (call.vendor, call.family.whole.handle)) = request.devices ∧
      (servePass choice request).value = (calls.foldlM serveCall choice).value ∧
      asked Query.isMemoryList (servePass choice request) =
        asked Query.isMemoryList (calls.foldlM serveCall choice) := by
  obtain ⟨vendor, config, switch, t⟩ := request
  have ho : asked Query.isMemoryList (opening vendor t) = [] := by
    refine ((asks_opening vendor t).mono fun q hq ↦ ?_).asked_eq_nil
    rcases hq with rfl | rfl <;> rfl
  obtain ⟨calls, hm, hc, hl⟩ := foldlM_visit_calls vendor config switch
    (visits vendor (opening vendor t).value) { topology := t, choice }
  rw [filterMap_visits] at hm
  refine ⟨calls, hm, ?_, ?_⟩
  · rw [servePass, Traced.value_map, runPass_eq, Traced.value_bind, hc]
  · rw [servePass, asked_map, runPass_eq, asked_bind, ho, List.nil_append, hl]

/-- Passes are calls for the memory sizes of their devices, as far as the choice and the lists
go. -/
theorem foldlM_servePass_calls (choice : MemoryChoice) (requests : List PassRequest) :
    ∃ calls : List MemoryCall,
      calls.map (fun call ↦ (call.vendor, call.family.whole.handle)) =
        requests.flatMap PassRequest.devices ∧
      (requests.foldlM servePass choice).value = (calls.foldlM serveCall choice).value ∧
      asked Query.isMemoryList (requests.foldlM servePass choice) =
        asked Query.isMemoryList (calls.foldlM serveCall choice) := by
  induction requests generalizing choice with
  | nil => exact ⟨[], rfl, rfl, rfl⟩
  | cons request requests ih =>
    obtain ⟨calls, hm, hc, hl⟩ := servePass_calls choice request
    obtain ⟨later, hm', hc', hl'⟩ := ih (calls.foldlM serveCall choice).value
    refine ⟨calls ++ later, ?_, ?_, ?_⟩
    · rw [List.map_append, hm, hm', List.flatMap_cons]
    · rw [List.foldlM_cons, Traced.value_bind, hc, hc', List.foldlM_append, Traced.value_bind]
    · rw [List.foldlM_cons, asked_bind, hl, hc, hl', List.foldlM_append, asked_bind]

/-- However many calls share a choice, its source is open before the first call and the one that
the first call settles on from then on. If that is the core interface, the memories of each device
and subdevice are listed once for each call, and the modules once in all if they were tried first
and never otherwise. If it is the management interface, the modules of the whole device are listed
once for each call, and memories never. Passes that share a choice are such calls, one for each
device. -/
theorem memory_source_settled_once (preference : MemoryPreference) :
    (∀ calls : List MemoryCall,
      (∀ n, (serveCalls preference (calls.take n)).value =
        ⟨preference, if n = 0 then .unresolved else settledBy preference calls⟩) ∧
      match settledBy preference calls with
      | .unresolved => calls = []
      | .core =>
        asked Query.isMemoryList (serveCalls preference calls) =
          (if preference = .auto then
            calls.head?.toList.map fun call ↦ .modules call.family.whole.handle else []) ++
              calls.flatMap fun call ↦ call.family.handles.map .memories
      | .sysman =>
        asked Query.isMemoryList (serveCalls preference calls) =
          calls.map fun call ↦ .modules call.family.whole.handle) ∧
    ∀ requests : List PassRequest, ∃ calls : List MemoryCall,
      calls.map (fun call ↦ (call.vendor, call.family.whole.handle)) =
        requests.flatMap PassRequest.devices ∧
      (servePasses preference requests).value = (serveCalls preference calls).value ∧
      asked Query.isMemoryList (servePasses preference requests) =
        asked Query.isMemoryList (serveCalls preference calls) := by
  refine ⟨fun calls ↦ ⟨fun n ↦ ?_, ?_⟩, foldlM_servePass_calls _⟩
  · rw [(serveCalls_spec preference _).1]
    cases n with
    | zero => rfl
    | succ n => cases calls <;> rfl
  · have hl := (serveCalls_spec preference calls).2
    cases calls with
    | nil => rfl
    | cons first later =>
      have hs : settledBy preference (first :: later) = first.settles preference := rfl
      rw [hs] at hl ⊢
      rw [List.head?_cons, Option.toList_some, List.flatMap_singleton,
        MemoryCall.trial_unresolved] at hl
      cases h : first.settles preference with
      | unresolved => exact absurd h (first.settles_ne_unresolved preference)
      | core =>
        simp only [h, and_true] at hl
        exact hl
      | sysman =>
        simp only [h, reduceCtorEq, and_false, if_false, List.nil_append] at hl
        exact hl.trans List.map_eq_flatMap.symm

end AcceleratorTopology
