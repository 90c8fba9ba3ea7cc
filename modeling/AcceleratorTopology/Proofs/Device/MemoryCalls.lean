import AcceleratorTopology.Proofs.Device.Queries

/-!
# Calls for memory sizes

What one call for the memory sizes of a device does to the choice of source, which lists it asks
for, and what it reads of modules. Calls that share a choice settle it once: the source of the first call
serves every later one.
-/

namespace AcceleratorTopology

open Vendor Settings

/-- A device for whose memory sizes a vendor is called. -/
structure MemoryCall where
  vendor : Answers
  family : DeviceFamily

/-- The handles of a device and of its subdevices. -/
def DeviceFamily.handles (family : DeviceFamily) : List DeviceHandle :=
  family.whole.handle :: family.parts.map NamedDevice.handle

namespace MemoryCall

/-- The source that a call settles on if none is chosen yet. -/
def settles (call : MemoryCall) : MemoryPreference → MemorySource
  | .auto =>
    match call.vendor (.modules call.family.whole.handle) with
    | .ok _ => .sysman
    | .error _ => .core
  | .sysman => .sysman
  | .core | .coreWithDdr => .core

/-- The lists that a call asks for when a source serves it. -/
def lists (call : MemoryCall) : MemorySource → List Query
  | .unresolved => []
  | .core => call.family.handles.map .memories
  | .sysman => [.modules call.family.whole.handle]

/-- The list that a call asks for in vain before the core interface serves it. -/
def trial (call : MemoryCall) (choice : MemoryChoice) : List Query :=
  if choice.source = .unresolved ∧ choice.preference = .auto ∧ call.settles .auto = .core then
    [.modules call.family.whole.handle]
  else []

/-- The source that serves a call. -/
def servedBy (call : MemoryCall) (choice : MemoryChoice) : MemorySource :=
  if choice.source = .unresolved then call.settles choice.preference else choice.source

/-- A call always settles on a source. -/
theorem settles_ne_unresolved (call : MemoryCall) (preference : MemoryPreference) :
    call.settles preference ≠ .unresolved := by
  unfold settles
  split
  · split <;> simp
  · simp
  · simp
  · simp

/-- A call is always served by a source. -/
theorem servedBy_ne_unresolved (call : MemoryCall) (choice : MemoryChoice) :
    call.servedBy choice ≠ .unresolved := by
  unfold servedBy
  split
  · exact call.settles_ne_unresolved choice.preference
  · assumption

/-- While no source is chosen, the modules are tried in vain if the automatic preference settles on
the core interface. -/
theorem trial_unresolved (call : MemoryCall) (preference : MemoryPreference) :
    call.trial { preference } =
      if preference = .auto ∧ call.settles preference = .core then
        [.modules call.family.whole.handle]
      else [] := by
  cases preference <;> simp [trial]

end MemoryCall

private theorem asks_readModule (vendor : Answers) (parts m : Nat) (handle : ModuleHandle) :
    Asks (fun q ↦ q = .moduleProperties handle ∨ q = .moduleState handle)
      (readModule vendor parts m handle) := by
  refine asks_bind (asks_ask (Or.inl rfl)) fun answer ↦ ?_
  cases answer with
  | error fault => exact asks_bind (asks_takeNote _) fun _ ↦ asks_pure _
  | ok reported =>
    refine asks_bind ?_ fun size ↦ asks_bind (asks_takeNote _) fun _ ↦ ?_
    · unfold effectiveSize
      split
      · exact asks_pure _
      · refine asks_bind (asks_ask (Or.inr rfl)) fun answer ↦ ?_
        cases answer with
        | error fault => exact asks_pure _
        | ok state => exact asks_bind (asks_takeNote _) fun _ ↦ asks_pure _
    · dsimp only
      split
      · exact asks_bind (asks_raiseWarning _ _ _) fun _ ↦ asks_pure _
      · exact asks_pure _

/-- The memories of one device are listed. -/
theorem asks_memoryOf (vendor : Answers) (ignoreDdr : Bool) (device : NamedDevice) :
    Asks (· = .memories device.handle) (memoryOf vendor ignoreDdr device) := by
  refine asks_bind (asks_ask rfl) fun answer ↦ ?_
  cases answer with
  | error fault => exact asks_bind (asks_takeNote _) fun _ ↦ asks_pure _
  | ok memories => exact asks_bind (asks_collect fun _ ↦ asks_takeNote _) fun _ ↦ asks_pure _

/-- Whether a query is about memories or modules. -/
def Vendor.Query.isAboutMemory : Query → Bool
  | memories _ | modules _ | moduleProperties _ | moduleState _ => true
  | _ => false

section Memory

variable (vendor : Answers) (family : DeviceFamily) (choice : MemoryChoice)

private theorem asks_coreEntries : Asks (·.isAboutMemory) (coreEntries vendor family choice) := by
  have hone (ignoreDdr : Bool) (device : NamedDevice) :
      Asks (·.isAboutMemory) (memoryOf vendor ignoreDdr device) :=
    (asks_memoryOf vendor ignoreDdr device).mono fun _ hq ↦ hq ▸ rfl
  refine asks_bind (asks_bind (hone _ _) fun _ ↦ ?_) fun _ ↦ asks_pure _
  exact asks_bind (asks_collect fun part ↦ hone _ part) fun _ ↦ asks_pure _

private theorem asks_memoryFromModules :
    Asks (·.isAboutMemory) (memoryFromModules vendor family) := by
  refine asks_bind (asks_ask rfl) fun answer ↦ ?_
  cases answer with
  | error fault => exact asks_pure _
  | ok handles =>
    refine asks_bind (asks_collect fun numbered ↦ ?_) fun _ ↦ asks_pure _
    refine (asks_readModule vendor _ numbered.2 numbered.1).mono fun q hq ↦ ?_
    rcases hq with rfl | rfl <;> rfl

private theorem asks_sysmanEntries :
    Asks (·.isAboutMemory) (sysmanEntries vendor family choice) := by
  refine asks_bind (asks_memoryFromModules vendor family) fun entries ↦ ?_
  cases entries with
  | ok entries => exact asks_pure _
  | error fault => exact asks_bind (asks_takeNote _) fun _ ↦ asks_pure _

/-- Memory sizes are found by asking about memories and modules. -/
theorem asks_memorySizes : Asks (·.isAboutMemory) (memorySizes vendor family choice) := by
  have htry : Asks (·.isAboutMemory) (tryModules vendor family choice) := by
    refine asks_bind (asks_memoryFromModules vendor family) fun entries ↦ ?_
    cases entries with
    | ok entries => exact asks_bind (asks_takeNote _) fun _ ↦ asks_pure _
    | error fault => exact asks_bind (asks_takeNote _) fun _ ↦ asks_coreEntries vendor family _
  unfold memorySizes
  split
  · exact asks_coreEntries vendor family _
  · exact asks_sysmanEntries vendor family _
  · split
    · exact htry
    · exact asks_sysmanEntries vendor family _
    · exact asks_coreEntries vendor family _
    · exact asks_coreEntries vendor family _

end Memory

private theorem lists_memoryFromModules (vendor : Answers) (family : DeviceFamily) :
    asked Query.isMemoryList (memoryFromModules vendor family) =
      [.modules family.whole.handle] := by
  rw [memoryFromModules, asked_bind, asked_ask, value_ask]
  cases vendor (.modules family.whole.handle) with
  | error fault => rfl
  | ok handles =>
    have h (numbered : ModuleHandle × Nat) : asked Query.isMemoryList
        (readModule vendor family.parts.length numbered.2 numbered.1) = [] := by
      refine ((asks_readModule _ _ _ _).mono fun q hq ↦ ?_).asked_eq_nil
      rcases hq with rfl | rfl <;> rfl
    rw [asked_bind, asked_collect, List.flatMap_eq_nil_iff.mpr fun numbered _ ↦ h numbered]
    rfl

section Reading

variable (vendor : Answers)

/-- The size of a module: as it is described or, if none is, as the live state has it. -/
def moduleSize (handle : ModuleHandle) (p : ModuleDescription) : UInt64 :=
  if p.physicalSize = 0 then
    match vendor (.moduleState handle) with
    | .ok state => state.size
    | .error _ => 0
  else p.physicalSize

/-- A module with its size; none if it cannot be described. -/
def sizedModule? (handle : ModuleHandle) : Option ModuleDescription :=
  match vendor (.moduleProperties handle) with
  | .ok p => some { p with physicalSize := moduleSize vendor handle p }
  | .error _ => none

/-- Some modules with their sizes, apart from those that cannot be described. -/
def sizedModules (handles : List ModuleHandle) : List ModuleDescription :=
  handles.filterMap (sizedModule? vendor)

private theorem value_effectiveSize (m : Nat) (handle : ModuleHandle) (p : ModuleDescription) :
    (effectiveSize vendor m handle p).value = moduleSize vendor handle p := by
  rw [effectiveSize, moduleSize]
  by_cases hsize : p.physicalSize = 0
  · rw [if_neg (not_not_intro hsize), if_pos hsize, Traced.value_bind, value_ask]
    cases vendor (.moduleState handle) <;> rfl
  · rw [if_pos hsize, if_neg hsize, Traced.value_pure]

private theorem value_readModule (parts m : Nat) (handle : ModuleHandle) :
    (readModule vendor parts m handle).value = sizedModule? vendor handle := by
  rw [readModule, Traced.value_bind, value_ask, sizedModule?]
  cases vendor (.moduleProperties handle) with
  | error fault => rfl
  | ok p =>
    dsimp only
    rw [Traced.value_bind, value_effectiveSize, Traced.value_bind]
    split <;> rfl

private theorem value_readModules (parts : Nat) (handles : List ModuleHandle) :
    (Traced.collect (fun numbered ↦ readModule vendor parts numbered.2 numbered.1)
      handles.zipIdx).value.filterMap id = sizedModules vendor handles := by
  have hread : (fun numbered : ModuleHandle × Nat ↦
      (readModule vendor parts numbered.2 numbered.1).value) =
      sizedModule? vendor ∘ Prod.fst :=
    funext fun numbered ↦ value_readModule vendor parts numbered.2 numbered.1
  rw [Traced.value_collect, hread, ← List.map_map, List.zipIdx_map_fst, List.filterMap_map,
    Function.id_comp, sizedModules]

variable {vendor} {family : DeviceFamily}

/-- Modules that can be listed give the sizes that are read of them. -/
theorem value_memoryFromModules_of_ok {handles : List ModuleHandle}
    (h : vendor (.modules family.whole.handle) = .ok handles) :
    (memoryFromModules vendor family).value =
      .ok (moduleEntries family.parts.length (sizedModules vendor handles)) := by
  rw [memoryFromModules, Traced.value_bind, value_ask, h, ← value_readModules]
  rfl

/-- Modules that cannot be listed give no sizes. -/
theorem value_memoryFromModules_of_error {fault : Fault}
    (h : vendor (.modules family.whole.handle) = .error fault) :
    (memoryFromModules vendor family).value = .error fault := by
  rw [memoryFromModules, Traced.value_bind, value_ask, h]
  rfl

end Reading

private theorem lists_memoryOf (vendor : Answers) (ignoreDdr : Bool) (device : NamedDevice) :
    asked Query.isMemoryList (memoryOf vendor ignoreDdr device) = [.memories device.handle] := by
  rw [memoryOf, asked_bind, asked_ask, value_ask]
  cases vendor (.memories device.handle) with
  | error fault => rfl
  | ok memories =>
    rw [asked_bind, asked_collect, List.flatMap_eq_nil_iff.mpr fun p _ ↦ asked_takeNote _ _]
    rfl

private theorem lists_memoryFromCore (vendor : Answers) (family : DeviceFamily) (ignoreDdr : Bool) :
    asked Query.isMemoryList (memoryFromCore vendor family ignoreDdr) =
      family.handles.map .memories := by
  rw [memoryFromCore, asked_bind, lists_memoryOf, asked_bind, asked_collect, asked_pure,
    List.append_nil, DeviceFamily.handles, List.map_cons, List.map_map]
  simp only [lists_memoryOf, ← List.map_eq_flatMap]
  rfl

/-- Serving a call by the core interface keeps the choice and asks for the memories. -/
theorem coreEntries_spec (call : MemoryCall) (choice : MemoryChoice) :
    (coreEntries call.vendor call.family choice).value.1 = choice ∧
      asked Query.isMemoryList (coreEntries call.vendor call.family choice) = call.lists .core := by
  refine ⟨rfl, ?_⟩
  rw [coreEntries, asked_bind, lists_memoryFromCore, asked_pure, List.append_nil]
  rfl

/-- Serving a call by the modules keeps the choice and asks for the modules. -/
theorem sysmanEntries_spec (call : MemoryCall) (choice : MemoryChoice) :
    (sysmanEntries call.vendor call.family choice).value.1 = choice ∧
      asked Query.isMemoryList (sysmanEntries call.vendor call.family choice) =
        call.lists .sysman := by
  rw [sysmanEntries, Traced.value_bind, asked_bind, lists_memoryFromModules]
  cases (memoryFromModules call.vendor call.family).value with
  | error fault => exact ⟨rfl, rfl⟩
  | ok entries => exact ⟨rfl, rfl⟩

/-- A trial of the modules settles on the interface that serves the call. -/
theorem tryModules_spec (call : MemoryCall) (choice : MemoryChoice) :
    (tryModules call.vendor call.family choice).value.1 =
        { choice with source := call.settles .auto } ∧
      asked Query.isMemoryList (tryModules call.vendor call.family choice) =
        (if call.settles .auto = .core then call.lists .sysman else []) ++
          call.lists (call.settles .auto) := by
  rw [tryModules, Traced.value_bind, asked_bind, lists_memoryFromModules, MemoryCall.settles]
  cases h : call.vendor (.modules call.family.whole.handle) with
  | error fault =>
    obtain ⟨hc, hl⟩ := coreEntries_spec call { choice with source := .core }
    rw [value_memoryFromModules_of_error h]
    refine ⟨hc, ?_⟩
    dsimp only
    rw [asked_bind, asked_takeNote, hl]
    rfl
  | ok handles =>
    rw [value_memoryFromModules_of_ok h]
    exact ⟨rfl, rfl⟩

/-- A call settles the source if it is open and keeps it otherwise, and asks for the lists of the
source that serves it, after a trial in vain if there is one. -/
theorem memorySizes_spec (call : MemoryCall) (choice : MemoryChoice) :
    (memorySizes call.vendor call.family choice).value.1 =
        { choice with source := call.servedBy choice } ∧
      asked Query.isMemoryList (memorySizes call.vendor call.family choice) =
        call.trial choice ++ call.lists (call.servedBy choice) := by
  obtain ⟨preference, source⟩ := choice
  cases source with
  | core => exact coreEntries_spec call _
  | sysman => exact sysmanEntries_spec call _
  | unresolved =>
    cases preference with
    | auto =>
      obtain ⟨hc, hl⟩ := tryModules_spec call ⟨.auto, .unresolved⟩
      refine ⟨hc, hl.trans ?_⟩
      simp only [MemoryCall.trial, MemoryCall.servedBy, MemoryCall.lists, true_and, if_true]
    | sysman => exact sysmanEntries_spec call _
    | core => exact coreEntries_spec call _
    | coreWithDdr => exact coreEntries_spec call _

/-- Serves one call and says what the choice is from then on. -/
def serveCall (choice : MemoryChoice) (call : MemoryCall) : Described MemoryChoice :=
  Prod.fst <$> memorySizes call.vendor call.family choice

/-- Serves calls that share a choice of source, which is open at first. -/
def serveCalls (preference : MemoryPreference) (calls : List MemoryCall) :
    Described MemoryChoice :=
  calls.foldlM serveCall { preference }

/-- Once a source is chosen, it serves all calls and nothing is tried any more. -/
theorem foldlM_serveCall_settled (choice : MemoryChoice) (calls : List MemoryCall)
    (h : choice.source ≠ .unresolved) :
    (calls.foldlM serveCall choice).value = choice ∧
      asked Query.isMemoryList (calls.foldlM serveCall choice) =
        calls.flatMap (·.lists choice.source) := by
  induction calls with
  | nil => exact ⟨rfl, rfl⟩
  | cons call calls ih =>
    obtain ⟨hc, hl⟩ := memorySizes_spec call choice
    have hs : call.servedBy choice = choice.source := by
      rw [MemoryCall.servedBy, if_neg h]
    have ht : call.trial choice = [] := by
      rw [MemoryCall.trial, if_neg fun ht ↦ h ht.1]
    have hv : (serveCall choice call).value = choice := by
      rw [serveCall, Traced.value_map, hc, hs]
    rw [List.foldlM_cons, Traced.value_bind, asked_bind, hv, ih.1, ih.2]
    refine ⟨rfl, ?_⟩
    rw [serveCall, asked_map, hl, hs, ht, List.nil_append, List.flatMap_cons]

/-- The source that some calls settle on: that of the first, none if there are no calls. -/
def settledBy (preference : MemoryPreference) : List MemoryCall → MemorySource
  | [] => .unresolved
  | first :: _ => first.settles preference

/-- Calls settle on the source of the first one, which serves all of them. -/
theorem serveCalls_spec (preference : MemoryPreference) (calls : List MemoryCall) :
    (serveCalls preference calls).value = ⟨preference, settledBy preference calls⟩ ∧
      asked Query.isMemoryList (serveCalls preference calls) =
        calls.head?.toList.flatMap (·.trial { preference }) ++
          calls.flatMap (·.lists (settledBy preference calls)) := by
  cases calls with
  | nil => exact ⟨rfl, rfl⟩
  | cons first later =>
    obtain ⟨hc, hl⟩ := memorySizes_spec first { preference }
    have hv : (serveCall { preference } first).value = ⟨preference, first.settles preference⟩ := by
      rw [serveCall, Traced.value_map, hc]
      rfl
    obtain ⟨hr, hq⟩ := foldlM_serveCall_settled ⟨preference, first.settles preference⟩ later
      (first.settles_ne_unresolved preference)
    rw [serveCalls, List.foldlM_cons, Traced.value_bind, asked_bind, hv, hr, hq, serveCall,
      asked_map, hl]
    refine ⟨rfl, ?_⟩
    simp only [List.head?_cons, Option.toList_some, List.flatMap_cons, List.flatMap_nil,
      List.append_nil, List.append_assoc]
    rfl

end AcceleratorTopology
