import AcceleratorTopology.Device.Description

/-!
# Keys

Under which keys each step of a description notes what it finds. The keys of memory sizes depend on
names that the vendor chooses, but all of them end in the same word.
-/

namespace AcceleratorTopology

open Vendor Settings

/-- The keys of type and shape. -/
def shapeKeys : List String :=
  ["LevelZeroDeviceType", "LevelZeroNumSlices", "LevelZeroNumSubslicesPerSlice",
    "LevelZeroNumEUsPerSubslice", "LevelZeroNumThreadsPerEU"]

/-- The keys of identity. -/
def identityKeys : List String :=
  ["LevelZeroVendor", "LevelZeroModel", "LevelZeroBrand", "LevelZeroSerialNumber",
    "LevelZeroBoardNumber"]

/-- Type and shape are noted under their keys, in order. -/
theorem keys_shape (p : DeviceShape) : p.attributes.map Attribute.key = shapeKeys := rfl

/-- Identity is noted under its keys, in order, but for what is unset. -/
theorem keys_identity (s : IdentityStrings) :
    (s.attributes.map Attribute.key).Sublist identityKeys :=
  List.filter_sublist.map Attribute.key

/-- A profile is noted under its keys. -/
theorem key_mem_of_profile {vendor : Answers} {name : String} {device : DeviceHandle}
    {standing : DeviceStanding} {switch : SysmanState} {a : Attribute}
    (h : a ∈ (deviceProfile vendor name device standing switch).value.attributes) :
    a.key ∈ shapeKeys ++ identityKeys := by
  have hshape (p? : Option DeviceShape) (hm : a ∈ (p?.map (·.attributes)).getD []) :
      a.key ∈ shapeKeys ++ identityKeys := by
    cases p? with
    | none => cases hm
    | some p => exact List.mem_append_left _ (keys_shape p ▸ List.mem_map_of_mem hm)
  have hidentity (hm : a ∈ (identityAttributes vendor device switch).value) :
      a.key ∈ shapeKeys ++ identityKeys := by
    rw [identityAttributes, Traced.value_bind, value_ask] at hm
    cases hv : vendor (.identity device) with
    | error fault =>
      rw [hv] at hm
      cases hm
    | ok strings =>
      rw [hv] at hm
      exact List.mem_append_right _ ((keys_identity strings).subset (List.mem_map_of_mem hm))
  rw [deviceProfile, Traced.value_bind] at h
  dsimp only at h
  split at h
  · exact hshape _ h
  · cases List.mem_append.mp h with
    | inl hm => exact hshape _ hm
    | inr hm => exact hidentity hm

/-- A key of the command-queue groups. -/
def IsQueueKey (key : String) : Prop := "LevelZeroCQGroup".toList <+: key.toList

instance (key : String) : Decidable (IsQueueKey key) :=
  inferInstanceAs (Decidable ("LevelZeroCQGroup".toList <+: key.toList))

/-- The groups are noted under their keys. -/
theorem isQueueKey_of_mem {groups : List QueueGroup} {a : Attribute}
    (h : a ∈ queueGroupAttributes groups) : IsQueueKey a.key := by
  unfold queueGroupAttributes at h
  split at h
  · cases h
  · cases List.mem_cons.mp h with
    | inl he =>
      have hk : a.key = "LevelZeroCQGroups" := congrArg Attribute.key he
      rw [hk]
      decide
    | inr hm =>
      obtain ⟨k, hk, he⟩ := List.mem_mapIdx.mp hm
      rw [← he]
      exact ⟨(toString k).toList, String.toList_append.symm⟩

/-- The groups of a device are noted under their keys. -/
theorem isQueueKey_of_queues {vendor : Answers} {name : String} {device : DeviceHandle}
    {a : Attribute} (h : a ∈ (queueAttributes vendor name device).value) : IsQueueKey a.key := by
  rw [queueAttributes, Traced.value_bind, value_ask] at h
  cases hv : vendor (.queueGroups device) with
  | error fault =>
    rw [hv] at h
    cases h
  | ok groups =>
    rw [hv] at h
    exact isQueueKey_of_mem h

/-- A key of memory sizes. -/
def IsSizeKey (key : String) : Prop := "Size".toList <:+ key.toList

instance (key : String) : Decidable (IsSizeKey key) :=
  inferInstanceAs (Decidable ("Size".toList <:+ key.toList))

/-- Whatever a memory is called, its size is noted under a key of memory sizes. -/
theorem isSizeKey_sizeAttribute (memory : String) (kib : Nat) :
    IsSizeKey (sizeAttribute memory kib).key := by
  have hk : (sizeAttribute memory kib).key = "LevelZero" ++ memory ++ "Size" := rfl
  rw [IsSizeKey, hk, String.toList_append]
  exact List.suffix_append _ _

private theorem isSizeKey_of_memories {ignoreDdr : Bool} {memories : List MemoryDescription}
    {a : Attribute} (h : a ∈ memoryAttributes ignoreDdr memories) : IsSizeKey a.key := by
  obtain ⟨p, -, rfl⟩ := List.mem_map.mp h
  exact isSizeKey_sizeAttribute _ _

private theorem isSizeKey_of_memoryOf {vendor : Answers} {ignoreDdr : Bool} {device : NamedDevice}
    {a : Attribute} (h : a ∈ (memoryOf vendor ignoreDdr device).value) : IsSizeKey a.key := by
  rw [memoryOf, Traced.value_bind, value_ask] at h
  cases hv : vendor (.memories device.handle) with
  | error fault =>
    rw [hv] at h
    cases h
  | ok memories =>
    rw [hv] at h
    exact isSizeKey_of_memories h

private theorem isSizeKey_of_core {vendor : Answers} {family : DeviceFamily} {ignoreDdr : Bool}
    {e : MemoryEntry} (h : e ∈ (memoryFromCore vendor family ignoreDdr).value) :
    IsSizeKey e.attr.key := by
  simp only [memoryFromCore, Traced.value_bind, Traced.value_collect, Traced.value_pure,
    List.mem_append, List.mem_map, List.mem_flatten, List.mem_mapIdx] at h
  rcases h with ⟨a, ha, rfl⟩ | ⟨_, ⟨k, hk, rfl⟩, he⟩
  · exact isSizeKey_of_memoryOf ha
  · obtain ⟨a, ha, rfl⟩ := List.mem_map.mp he
    rw [List.getElem_map] at ha
    exact isSizeKey_of_memoryOf ha

private theorem isSizeKey_of_totals {totals : MemoryTotals} {a : Attribute}
    (h : a ∈ totals.attributes) : IsSizeKey a.key := by
  rw [MemoryTotals.attributes, List.mem_append] at h
  cases h with
  | inl hm =>
    split at hm
    · rw [List.mem_singleton.mp hm]
      exact isSizeKey_sizeAttribute "HBM" totals.hbm
    · cases hm
  | inr hm =>
    split at hm
    · rw [List.mem_singleton.mp hm]
      exact isSizeKey_sizeAttribute "DDR" totals.ddr
    · cases hm

private theorem isSizeKey_of_modules {parts : Nat} {modules : List ModuleDescription}
    {e : MemoryEntry} (h : e ∈ moduleEntries parts modules) : IsSizeKey e.attr.key := by
  cases List.mem_append.mp h with
  | inl hm =>
    obtain ⟨p, -, hp⟩ := List.mem_filterMap.mp hm
    unfold entryOfModule? at hp
    split at hp
    · cases hp
      exact isSizeKey_sizeAttribute _ _
    · cases hp
  | inr hm =>
    obtain ⟨a, ha, rfl⟩ := List.mem_map.mp hm
    exact isSizeKey_of_totals ha

/-- Whatever a call for memory sizes finds is noted under keys of memory sizes. -/
theorem isSizeKey_of_memorySizes {vendor : Answers} {family : DeviceFamily} {choice : MemoryChoice}
    {e : MemoryEntry} (h : e ∈ (memorySizes vendor family choice).value.2) :
    IsSizeKey e.attr.key := by
  have hmodules {entries : List MemoryEntry}
      (hv : (memoryFromModules vendor family).value = .ok entries) (he : e ∈ entries) :
      IsSizeKey e.attr.key := by
    rw [memoryFromModules, Traced.value_bind] at hv
    split at hv
    · cases hv
    · cases hv
      exact isSizeKey_of_modules he
  have hcore (choice : MemoryChoice) (he : e ∈ (coreEntries vendor family choice).value.2) :
      IsSizeKey e.attr.key := isSizeKey_of_core he
  have hsysman (choice : MemoryChoice) (he : e ∈ (sysmanEntries vendor family choice).value.2) :
      IsSizeKey e.attr.key := by
    rw [sysmanEntries, Traced.value_bind] at he
    split at he
    · next entries hv => exact hmodules hv he
    · cases he
  unfold memorySizes at h
  split at h
  · exact hcore _ h
  · exact hsysman _ h
  · split at h
    · rw [tryModules, Traced.value_bind] at h
      split at h
      · next entries hv => exact hmodules hv h
      · exact hcore _ h
    · exact hsysman _ h
    · exact hcore _ h
    · exact hcore _ h

end AcceleratorTopology
