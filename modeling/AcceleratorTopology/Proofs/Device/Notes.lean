import AcceleratorTopology.Proofs.Device.Warnings
import AcceleratorTopology.Proofs.Text.Decimal
import Mathlib.Data.List.Nodup

/-!
# What is noted about a device

Memory sizes apart, the attributes of a device and of each subdevice are known from what the vendor
answers about that very device. Their keys are all different. None of them is a key of memory sizes,
whatever the vendor calls its memories, so that each is found and tells what was noted under it.
-/

namespace AcceleratorTopology

open Vendor Settings

/-- What is noted under a key that occurs once is found there. -/
theorem Attribute.lookup?_of_mem {attributes : List Attribute}
    (hkeys : (attributes.map key).Nodup) {a : Attribute} (h : a ∈ attributes) :
    lookup? attributes a.key = some a.value := by
  induction attributes with
  | nil => cases h
  | cons b attributes ih =>
    obtain ⟨hb, hrest⟩ := List.nodup_cons.mp hkeys
    cases List.mem_cons.mp h with
    | inl he =>
      subst he
      exact lookup?_cons_self a attributes
    | inr hm =>
      have hne : b.key ≠ a.key := fun he ↦ hb (he ▸ List.mem_map_of_mem hm)
      rw [lookup?, List.find?_cons_of_neg (by simpa using hne)]
      exact ih hrest hm

section Notes

variable (vendor : Answers)

/-- The notes about type and shape. -/
def shapeNotes (device : DeviceHandle) : List Attribute :=
  match vendor (.properties device) with
  | .ok p => p.attributes
  | .error _ => []

/-- The notes about identity; there are none on a device that says that it is a subdevice. -/
def identityNotes (device : DeviceHandle) : List Attribute :=
  if saysPart vendor device then []
  else
    match vendor (.identity device) with
    | .ok strings => strings.attributes
    | .error _ => []

/-- The notes about command-queue groups. -/
def queueNotes (device : DeviceHandle) : List Attribute :=
  queueGroupAttributes (listed (vendor (.queueGroups device)))

/-- The notes on a whole device, listed at a place of a driver. -/
def wholeNotes (driver position : Nat) (device : DeviceHandle) : List Attribute :=
  [backendAttribute, .number "LevelZeroDriverIndex" driver,
    .number "LevelZeroDriverDeviceIndex" position] ++
  shapeNotes vendor device ++ identityNotes vendor device ++ queueNotes vendor device ++
  subdeviceCount (subdeviceHandles vendor device)

/-- The notes on subdevice number `k`. -/
def partNotes (k : Nat) (device : DeviceHandle) : List Attribute :=
  [backendAttribute, .number "LevelZeroSubdeviceID" k] ++ shapeNotes vendor device ++
  queueNotes vendor device

end Notes

section Keys

/-- The keys that devices and subdevices start with. -/
def startKeys : List String :=
  ["Backend", "LevelZeroDriverIndex", "LevelZeroDriverDeviceIndex", "LevelZeroSubdeviceID"]

/-- The keys that do not depend on what is listed. -/
def fixedKeys : List String := startKeys ++ shapeKeys ++ identityKeys ++ ["LevelZeroSubdevices"]

/-- These are all different. -/
theorem nodup_fixedKeys : fixedKeys.Nodup := by decide

private theorem not_isQueueKey_of_fixed : ∀ key ∈ fixedKeys, ¬IsQueueKey key := by decide

private theorem not_isSizeKey_of_fixed : ∀ key ∈ fixedKeys, ¬IsSizeKey key := by decide

private theorem not_isSizeKey_append_toString (text : String) (n : Nat) :
    ¬IsSizeKey (text ++ toString n) := by
  rintro ⟨front, h⟩
  have hlast : (toString n).toList.getLast? = some 'e' := by
    have hne : (toString n).toList ≠ [] := by
      rw [Text.toList_toString]
      exact Nat.toDigits_ne_nil
    rw [← List.getLast?_append_of_ne_nil text.toList hne, ← String.toList_append, ← h]
    exact List.getLast?_append_of_ne_nil front (by decide)
  exact Text.notMem_toString (by decide) n (List.mem_of_getLast? hlast)

private theorem keys_queueGroupAttributes (groups : List QueueGroup) :
    (queueGroupAttributes groups).map Attribute.key =
      if groups.isEmpty then []
      else "LevelZeroCQGroups" ::
        (List.range groups.length).map fun k ↦ "LevelZeroCQGroup" ++ toString k := by
  rw [queueGroupAttributes]
  split
  · rfl
  · have hgroups : (groups.mapIdx fun k g ↦
        (⟨s!"LevelZeroCQGroup{k}", g.text⟩ : Attribute)).map Attribute.key =
        (List.range groups.length).map fun k ↦ "LevelZeroCQGroup" ++ toString k := by
      apply List.ext_getElem
      · simp
      · intro k hk hr
        rw [List.getElem_map, List.getElem_mapIdx, List.getElem_map, List.getElem_range]
        rfl
    rw [List.map_cons, hgroups]
    rfl

/-- The keys of command-queue groups are all different. -/
theorem nodup_keys_queueGroupAttributes (groups : List QueueGroup) :
    ((queueGroupAttributes groups).map Attribute.key).Nodup := by
  rw [keys_queueGroupAttributes]
  split
  · exact List.nodup_nil
  · refine List.nodup_cons.mpr ⟨fun hm ↦ ?_, List.nodup_range.map fun j k hjk ↦ ?_⟩
    · -- The key of the number of groups ends in a letter.
      obtain ⟨k, -, hk⟩ := List.mem_map.mp hm
      have hletter : (toString k).toList = ['s'] := by
        have hlist := congrArg String.toList hk
        rw [String.toList_append] at hlist
        exact List.append_cancel_left hlist
      have hmem : 's' ∈ (toString k).toList := by
        rw [hletter]
        exact List.mem_singleton_self _
      exact Text.notMem_toString (by decide) k hmem
    · exact Text.toString_injective (String.append_right_inj _ |>.mp hjk)

private theorem not_isSizeKey_of_queueGroups {groups : List QueueGroup} {a : Attribute}
    (h : a ∈ queueGroupAttributes groups) : ¬IsSizeKey a.key := by
  have hkey := List.mem_map_of_mem (f := Attribute.key) h
  rw [keys_queueGroupAttributes] at hkey
  split at hkey
  · cases hkey
  · cases List.mem_cons.mp hkey with
    | inl he =>
      rw [he]
      decide
    | inr hm =>
      obtain ⟨k, -, hk⟩ := List.mem_map.mp hm
      rw [← hk]
      exact not_isSizeKey_append_toString _ k

end Keys

/-- Notes that can be told apart: no key occurs twice, and none is a key of memory sizes. -/
structure ToldApart (notes : List Attribute) : Prop where
  nodup : (notes.map Attribute.key).Nodup
  unsized : ∀ a ∈ notes, ¬IsSizeKey a.key

section ToldApart

variable (vendor : Answers)

private theorem toldApart_around {first last : List Attribute}
    (hfixed : ((first ++ last).map Attribute.key).Sublist fixedKeys) (groups : List QueueGroup) :
    ToldApart (first ++ queueGroupAttributes groups ++ last) := by
  -- With the notes under fixed keys put together only two kinds of keys are to be told apart.
  have hperm : (first ++ queueGroupAttributes groups ++ last).Perm
      ((first ++ last) ++ queueGroupAttributes groups) := by
    rw [List.append_assoc, List.append_assoc]
    exact List.perm_append_comm.append_left first
  have hfixedKey {a : Attribute} (ha : a ∈ first ++ last) : a.key ∈ fixedKeys :=
    hfixed.subset (List.mem_map_of_mem ha)
  constructor
  case nodup =>
    rw [(hperm.map Attribute.key).nodup_iff, List.map_append]
    refine List.Nodup.append (hfixed.nodup nodup_fixedKeys) (nodup_keys_queueGroupAttributes _) ?_
    intro key hkey hgroup
    obtain ⟨a, ha, rfl⟩ := List.mem_map.mp hkey
    obtain ⟨b, hb, hba⟩ := List.mem_map.mp hgroup
    exact not_isQueueKey_of_fixed _ (hfixedKey ha) (hba ▸ isQueueKey_of_mem hb)
  case unsized =>
    intro a ha
    cases List.mem_append.mp (hperm.mem_iff.mp ha) with
    | inl hm => exact not_isSizeKey_of_fixed _ (hfixedKey hm)
    | inr hm => exact not_isSizeKey_of_queueGroups hm

/-- Type and shape are noted under their keys, if at all. -/
theorem keys_shapeNotes (device : DeviceHandle) :
    ((shapeNotes vendor device).map Attribute.key).Sublist shapeKeys := by
  rw [shapeNotes]
  split
  · next p _ => exact keys_shape p ▸ List.Sublist.refl shapeKeys
  · exact List.nil_sublist _

/-- Identity is noted under its keys, if at all. -/
theorem keys_identityNotes (device : DeviceHandle) :
    ((identityNotes vendor device).map Attribute.key).Sublist identityKeys := by
  rw [identityNotes]
  split
  · exact List.nil_sublist _
  · split
    · next strings _ => exact keys_identity strings
    · exact List.nil_sublist _

/-- Subdevices are counted under one key, if at all. -/
theorem keys_subdeviceCount (handles : List DeviceHandle) :
    ((subdeviceCount handles).map Attribute.key).Sublist ["LevelZeroSubdevices"] := by
  rw [subdeviceCount]
  split
  · exact List.nil_sublist _
  · exact List.Sublist.refl _

/-- The notes on a whole device can be told apart. -/
theorem toldApart_wholeNotes (driver position : Nat) (device : DeviceHandle) :
    ToldApart (wholeNotes vendor driver position device) := by
  apply toldApart_around
  have hstart : ["Backend", "LevelZeroDriverIndex", "LevelZeroDriverDeviceIndex"].Sublist
      startKeys := by decide
  rw [List.map_append, List.map_append, List.map_append]
  exact ((hstart.append (keys_shapeNotes vendor device)).append
    (keys_identityNotes vendor device)).append (keys_subdeviceCount _)

/-- The notes on a subdevice can be told apart. -/
theorem toldApart_partNotes (k : Nat) (device : DeviceHandle) :
    ToldApart (partNotes vendor k device) := by
  have hstart : ["Backend", "LevelZeroSubdeviceID"].Sublist startKeys := by decide
  have hfixed : (([backendAttribute, Attribute.number "LevelZeroSubdeviceID" k] ++
      shapeNotes vendor device ++ []).map Attribute.key).Sublist fixedKeys := by
    rw [List.map_append, List.map_append]
    exact ((hstart.append (keys_shapeNotes vendor device)).trans
      (List.sublist_append_left _ identityKeys)).append (List.nil_sublist _)
  have happart := toldApart_around hfixed (listed (vendor (.queueGroups device)))
  rwa [List.append_nil] at happart

end ToldApart

/-- Attributes that are notes followed by memory sizes, kept apart by their keys. What is noted is
found; what is not, is not found either, unless it is looked for under a key of memory sizes. -/
structure KeptApart (attributes notes sizes : List Attribute) : Prop where
  attributes_eq : attributes = notes ++ sizes
  distinct : (notes.map Attribute.key).Nodup
  apart : ∀ a ∈ notes, ∀ b ∈ sizes, a.key ≠ b.key
  found : ∀ a ∈ notes, Attribute.lookup? attributes a.key = some a.value
  unsized : ∀ key, ¬IsSizeKey key →
    Attribute.lookup? attributes key = Attribute.lookup? notes key

/-- Notes that can be told apart are kept apart from whatever sizes are noted after them. -/
theorem ToldApart.keptApart {notes sizes : List Attribute} (h : ToldApart notes)
    (hsizes : ∀ b ∈ sizes, IsSizeKey b.key) : KeptApart (notes ++ sizes) notes sizes := by
  constructor
  case attributes_eq => rfl
  case distinct => exact h.nodup
  case apart => exact fun a ha b hb he ↦ h.unsized a ha (he ▸ hsizes b hb)
  case found =>
    intro a ha
    rw [Attribute.lookup?_append, Attribute.lookup?_of_mem h.nodup ha]
    rfl
  case unsized =>
    intro key hkey
    rw [Attribute.lookup?_append, Attribute.lookup?_eq_none_of_form hsizes hkey, Option.or_none]

section Values

variable (vendor : Answers) (name : String) (device : DeviceHandle) (switch : SysmanState)

private theorem attributes_coreProperties :
    ((coreProperties vendor name device).value.map (·.attributes)).getD [] =
      shapeNotes vendor device := by
  rw [coreProperties, Traced.value_bind, value_ask, shapeNotes]
  cases vendor (.properties device) with
  | error fault => rfl
  | ok p =>
    dsimp only
    cases p.deviceType <;> rfl

/-- What is learnt of the nature of a whole device is noted. -/
theorem attributes_deviceProfile_whole :
    (deviceProfile vendor name device .whole switch).value.attributes =
      shapeNotes vendor device ++ identityNotes vendor device := by
  have hidentity : (identityAttributes vendor device switch).value =
      match vendor (.identity device) with
      | .ok strings => strings.attributes
      | .error _ => [] := by
    rw [identityAttributes, Traced.value_bind, value_ask]
    cases vendor (.identity device) <;> rfl
  rw [deviceProfile, Traced.value_bind]
  dsimp only
  rw [attributes_coreProperties, any_isSubdevice_coreProperties, identityNotes, ← hidentity]
  cases saysPart vendor device with
  | true => exact (List.append_nil _).symm
  | false => rfl

/-- What is learnt of the nature of a subdevice is noted. -/
theorem attributes_deviceProfile_part :
    (deviceProfile vendor name device .part switch).value.attributes =
      shapeNotes vendor device := by
  rw [deviceProfile, Traced.value_bind]
  exact attributes_coreProperties vendor name device

/-- What is learnt of queue groups is noted. -/
theorem value_queueAttributes :
    (queueAttributes vendor name device).value = queueNotes vendor device := by
  rw [queueAttributes, Traced.value_bind, value_ask, queueNotes]
  cases vendor (.queueGroups device) <;> rfl

end Values

section Describe

variable (vendor : Answers) (config : Configuration) (switch : SysmanState)
  (choice : MemoryChoice) (listing : Listing)

/-- The entries of memory sizes that are found for a device and its subdevices. -/
def memoryEntries : List MemoryEntry :=
  (memorySizes vendor (surveyDevice vendor config switch listing).value.family choice).value.2

/-- All of these have keys of memory sizes. -/
theorem isSizeKey_of_memoryEntries {place : MemoryPlace} {a : Attribute}
    (h : a ∈ entriesAt place (memoryEntries vendor config switch choice listing)) :
    IsSizeKey a.key := by
  obtain ⟨e, he, rfl⟩ := List.mem_map.mp h
  exact isSizeKey_of_memorySizes (List.mem_filter.mp he).1

/-- On a whole device the notes about it are kept apart from its memory sizes. -/
theorem keptApart_describe_whole :
    KeptApart (describe vendor config switch choice listing).value.2.whole.attributes
      (wholeNotes vendor listing.driver listing.position listing.device)
      (entriesAt .whole (memoryEntries vendor config switch choice listing)) := by
  let name := (wholeSheet config listing).name
  have hattributes : (describe vendor config switch choice listing).value.2.whole.attributes =
      (wholeSheet config listing).attributes ++
        ((deviceProfile vendor name listing.device .whole switch).value.attributes ++
          (queueAttributes vendor name listing.device).value ++
          subdeviceCount (subdevicesOf vendor name listing.device).value) ++
        entriesAt .whole (memoryEntries vendor config switch choice listing) := rfl
  rw [attributes_deviceProfile_whole, value_queueAttributes, value_subdevicesOf,
    ← List.append_assoc, ← List.append_assoc, ← List.append_assoc] at hattributes
  rw [hattributes]
  exact (toldApart_wholeNotes vendor _ _ _).keptApart
    fun _ ↦ isSizeKey_of_memoryEntries vendor config switch choice listing

/-- On a subdevice the notes about it are kept apart from its memory sizes. -/
theorem keptApart_describe_part {k : Nat} {part : Sheet} {handle : DeviceHandle}
    (hpart : (describe vendor config switch choice listing).value.2.parts[k]? = some part)
    (hhandle : (subdeviceHandles vendor listing.device)[k]? = some handle) :
    KeptApart part.attributes (partNotes vendor k handle)
      (entriesAt (.part k) (memoryEntries vendor config switch choice listing)) := by
  let sheet := partSheet (wholeSheet config listing).name k
  rw [getElem?_parts_describe, hhandle] at hpart
  have hattributes : part.attributes = sheet.attributes ++
      ((deviceProfile vendor sheet.name handle .part switch).value.attributes ++
        (queueAttributes vendor sheet.name handle).value) ++
      entriesAt (.part k) (memoryEntries vendor config switch choice listing) := by
    rw [← Option.some.inj hpart]
    rfl
  rw [attributes_deviceProfile_part, value_queueAttributes, ← List.append_assoc] at hattributes
  rw [hattributes]
  exact (toldApart_partNotes vendor k handle).keptApart
    fun _ ↦ isSizeKey_of_memoryEntries vendor config switch choice listing

end Describe

end AcceleratorTopology
