import AcceleratorTopology.Proofs.Device.Keys

/-!
# What the sheets of a device carry

The names of the sheets, how many there are, and what is found under the keys that number drivers,
devices and subdevices, whatever else the vendor answers.
-/

namespace AcceleratorTopology

open Vendor Settings

/-- The subdevices that a vendor lists, none if it does not. -/
def subdeviceHandles (vendor : Answers) (device : DeviceHandle) : List DeviceHandle :=
  match vendor (.subdevices device) with
  | .ok handles => handles
  | .error _ => []

/-- The subdevices that are described are those that the vendor lists. -/
theorem value_subdevicesOf (vendor : Answers) (name : String) (device : DeviceHandle) :
    (subdevicesOf vendor name device).value = subdeviceHandles vendor device := by
  rw [subdevicesOf, Traced.value_bind, value_ask, subdeviceHandles]
  cases vendor (.subdevices device) <;> rfl

private theorem lookup?_subdeviceCount (handles : List DeviceHandle) :
    Attribute.lookup? (subdeviceCount handles) "LevelZeroSubdevices" =
      if handles.length = 0 then none else some (toString handles.length) := by
  cases handles with
  | nil => rfl
  | cons handle handles => exact Attribute.lookup?_cons_self _ _

section Describe

variable (vendor : Answers) (config : Configuration) (switch : SysmanState)
  (choice : MemoryChoice) (listing : Listing)

/-- A whole device is called by the prefix and its number. -/
theorem name_describe_whole :
    (describe vendor config switch choice listing).value.2.whole.name =
      config.namePrefix ++ toString listing.index := rfl

private theorem parts_surveyDevice :
    (surveyDevice vendor config switch listing).value.description.parts =
      (subdeviceHandles vendor listing.device).zipIdx.map fun numbered ↦
        (describePart vendor switch (wholeSheet config listing).name numbered.2
          numbered.1).value := by
  rw [← value_subdevicesOf vendor (wholeSheet config listing).name]
  exact Traced.value_collect _ _

/-- A survey describes as many subdevices as the vendor lists. -/
theorem length_parts_surveyDevice :
    (surveyDevice vendor config switch listing).value.description.parts.length =
      (subdeviceHandles vendor listing.device).length := by
  rw [parts_surveyDevice, List.length_map, List.length_zipIdx]

/-- A survey finds a family of the subdevices that the vendor lists. -/
theorem map_handle_surveyDevice :
    (surveyDevice vendor config switch listing).value.family.parts.map NamedDevice.handle =
      subdeviceHandles vendor listing.device := by
  have hparts : (surveyDevice vendor config switch listing).value.family.parts =
      List.zipWith (fun h s ↦ ⟨h, s.name⟩)
        (subdevicesOf vendor (wholeSheet config listing).name listing.device).value
        (surveyDevice vendor config switch listing).value.description.parts := rfl
  rw [hparts, value_subdevicesOf, List.map_zipWith]
  apply List.ext_getElem
  · rw [List.length_zipWith, length_parts_surveyDevice, Nat.min_self]
  · intro i _ _
    rw [List.getElem_zipWith]

private theorem value_describePart (whole : String) (k : Nat) (device : DeviceHandle) :
    ∃ noted, (describePart vendor switch whole k device).value = (partSheet whole k).note noted :=
  ⟨_, rfl⟩

/-- The sheet of subdevice number `k`, with its memory sizes, if the vendor lists that many. -/
theorem getElem?_parts_describe (k : Nat) :
    (describe vendor config switch choice listing).value.2.parts[k]? =
      (subdeviceHandles vendor listing.device)[k]?.map fun handle ↦
        (describePart vendor switch (wholeSheet config listing).name k handle).value.note
          (entriesAt (.part k) (memorySizes vendor
            (surveyDevice vendor config switch listing).value.family choice).value.2) := by
  have hparts : (describe vendor config switch choice listing).value.2.parts =
      (surveyDevice vendor config switch listing).value.description.parts.mapIdx fun k part ↦
        part.note (entriesAt (.part k) (memorySizes vendor
          (surveyDevice vendor config switch listing).value.family choice).value.2) := rfl
  rw [hparts, parts_surveyDevice, List.getElem?_mapIdx, List.getElem?_map, List.getElem?_zipIdx,
    Option.map_map, Option.map_map, Nat.zero_add]
  rfl

private theorem getElem?_describe_parts {k : Nat} {part : Sheet}
    (h : (describe vendor config switch choice listing).value.2.parts[k]? = some part) :
    ∃ noted, part = (partSheet (wholeSheet config listing).name k).note noted := by
  rw [getElem?_parts_describe] at h
  obtain ⟨handle, -, rfl⟩ := Option.map_eq_some_iff.mp h
  obtain ⟨noted, hnoted⟩ :=
    value_describePart vendor switch (wholeSheet config listing).name k handle
  rw [hnoted, Sheet.note_note]
  exact ⟨_, rfl⟩

/-- The sheets of a device and of its subdevices all tell the interface that describes them. -/
theorem subtype_describe :
    (describe vendor config switch choice listing).value.2.whole.subtype = some backend ∧
      ∀ part ∈ (describe vendor config switch choice listing).value.2.parts,
        part.subtype = some backend := by
  constructor
  · rfl
  · intro part hpart
    obtain ⟨k, hk⟩ := List.mem_iff_getElem?.mp hpart
    obtain ⟨noted, rfl⟩ := getElem?_describe_parts vendor config switch choice listing hk
    rfl

private theorem attributes_describe_whole :
    ∃ profile queues entries,
      (∀ a ∈ profile, a.key ∈ shapeKeys ++ identityKeys) ∧ (∀ a ∈ queues, IsQueueKey a.key) ∧
      (∀ a ∈ entries, IsSizeKey a.key) ∧
      (describe vendor config switch choice listing).value.2.whole.attributes =
        (wholeSheet config listing).attributes ++ (profile ++ queues ++
          subdeviceCount (subdeviceHandles vendor listing.device)) ++ entries := by
  let sheet := wholeSheet config listing
  let family := (surveyDevice vendor config switch listing).value.family
  refine ⟨(deviceProfile vendor sheet.name listing.device .whole switch).value.attributes,
    (queueAttributes vendor sheet.name listing.device).value,
    entriesAt .whole (memorySizes vendor family choice).value.2,
    fun a ↦ key_mem_of_profile, fun a ↦ isQueueKey_of_queues, ?_, ?_⟩
  · intro a ha
    obtain ⟨e, he, rfl⟩ := List.mem_map.mp ha
    exact isSizeKey_of_memorySizes (List.mem_filter.mp he).1
  · rw [← value_subdevicesOf vendor sheet.name]
    rfl

/-- A whole device starts with the numbers of its driver and of its place there. -/
theorem lookup?_describe_numbers :
    Attribute.lookup? (describe vendor config switch choice listing).value.2.whole.attributes
        "LevelZeroDriverIndex" = some (toString listing.driver) ∧
      Attribute.lookup? (describe vendor config switch choice listing).value.2.whole.attributes
        "LevelZeroDriverDeviceIndex" = some (toString listing.position) := by
  obtain ⟨profile, queues, entries, -, -, -, ha⟩ :=
    attributes_describe_whole vendor config switch choice listing
  rw [ha, List.append_assoc, Attribute.lookup?_append, Attribute.lookup?_append]
  exact ⟨rfl, rfl⟩

/-- A whole device counts the subdevices that the vendor lists, if there are any. -/
theorem lookup?_describe_subdevices :
    Attribute.lookup? (describe vendor config switch choice listing).value.2.whole.attributes
        "LevelZeroSubdevices" =
      if (subdeviceHandles vendor listing.device).length = 0 then none
      else some (toString (subdeviceHandles vendor listing.device).length) := by
  obtain ⟨profile, queues, entries, hp, hq, he, ha⟩ :=
    attributes_describe_whole vendor config switch choice listing
  have hprofile : Attribute.lookup? profile "LevelZeroSubdevices" = none :=
    Attribute.lookup?_eq_none_of_form hp (by decide)
  have hqueues : Attribute.lookup? queues "LevelZeroSubdevices" = none :=
    Attribute.lookup?_eq_none_of_form hq (by decide)
  have hentries : Attribute.lookup? entries "LevelZeroSubdevices" = none :=
    Attribute.lookup?_eq_none_of_form he (by decide)
  have hsheet : Attribute.lookup? (wholeSheet config listing).attributes
      "LevelZeroSubdevices" = none := rfl
  rw [ha, Attribute.lookup?_append, Attribute.lookup?_append, Attribute.lookup?_append,
    Attribute.lookup?_append, hsheet, hprofile, hqueues, hentries, Option.none_or, Option.none_or,
    Option.none_or, Option.or_none, lookup?_subdeviceCount]

/-- There is one sheet for each subdevice that the vendor lists. -/
theorem length_describe_parts :
    (describe vendor config switch choice listing).value.2.parts.length =
      (subdeviceHandles vendor listing.device).length := by
  have hnote : (describe vendor config switch choice listing).value.2.parts.length =
      (surveyDevice vendor config switch listing).value.description.parts.length :=
    Description.length_parts_noteMemory _ _
  rw [hnote, length_parts_surveyDevice]

/-- Subdevice number `k` is called after the whole device and starts with its number. -/
theorem describe_part {k : Nat} {part : Sheet}
    (h : (describe vendor config switch choice listing).value.2.parts[k]? = some part) :
    part.name = config.namePrefix ++ toString listing.index ++ "." ++ toString k ∧
      Attribute.lookup? part.attributes "LevelZeroSubdeviceID" = some (toString k) := by
  obtain ⟨noted, rfl⟩ := getElem?_describe_parts vendor config switch choice listing h
  constructor
  · rfl
  · rw [Sheet.attributes_note, Attribute.lookup?_append]
    rfl

end Describe

end AcceleratorTopology
