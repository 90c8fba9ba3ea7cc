import AcceleratorTopology.Proofs.Device.Drafting
import AcceleratorTopology.Proofs.Device.Warnings

/-!
# What the core interface gives

Where memory sizes come from the core interface, a device and each of its subdevices are noted with
what the vendor lists for that very handle, whatever it lists for the others or fails to. Only the
device tells whether DDR is left out because it is the host's, on its subdevices as well.
-/

namespace AcceleratorTopology

open Vendor Settings

/-- What a list of memories is noted as, in order: each by its name, or just as memory, with its
size in KiB. Those without a size are left out, and so is DDR if the device is integrated, unless
all DDR is asked for. -/
def coreNotes (preference : MemoryPreference) (integrated : Bool)
    (memories : List MemoryDescription) : List Attribute :=
  memories.filterMap fun p ↦
    if p.totalSize = 0 ∨ p.name = "DDR" ∧ integrated = true ∧ preference ≠ .coreWithDdr then none
    else
      let name := if p.name = "" then "Memory" else p.name
      some (.number ("LevelZero" ++ name ++ "Size") (toKiB p.totalSize))

section Entries

variable {vendor : Answers} {family : DeviceFamily} {choice : MemoryChoice}

private theorem memoryAttributes_eq_coreNotes (choice : MemoryChoice) (family : DeviceFamily)
    (memories : List MemoryDescription) :
    memoryAttributes (ignoresDdr choice family) memories =
      coreNotes choice.preference family.integrated memories := by
  induction memories with
  | nil => rfl
  | cons p memories ih =>
    rw [coreNotes, List.filterMap_cons, ← coreNotes, ← ih, memoryAttributes, memoryAttributes,
      List.filter_cons]
    by_cases hout : p.totalSize = 0 ∨ p.name = "DDR" ∧ family.integrated = true ∧
        choice.preference ≠ .coreWithDdr
    · have hreported : isReported (ignoresDdr choice family) p = false := by
        simp only [isReported, ignoresDdr]
        grind
      rw [if_pos hout, hreported]
      rfl
    · have hreported : isReported (ignoresDdr choice family) p = true := by
        simp only [isReported, ignoresDdr]
        grind
      rw [if_neg hout, if_pos hreported, List.map_cons, MemoryDescription.asAttribute]
      simp only [String.isEmpty_iff]
      rfl

private theorem value_memoryOf (ignoreDdr : Bool) (device : NamedDevice) :
    (memoryOf vendor ignoreDdr device).value =
      memoryAttributes ignoreDdr (listed (vendor (.memories device.handle))) := by
  rw [memoryOf, Traced.value_bind, value_ask]
  cases vendor (.memories device.handle) <;> rfl

/-- The core interface finds for a whole device what is listed for it, and for each subdevice what
is listed for that. -/
theorem value_memoryFromCore (ignoreDdr : Bool) :
    (memoryFromCore vendor family ignoreDdr).value =
      (memoryAttributes ignoreDdr (listed (vendor (.memories family.whole.handle)))).map
        (MemoryEntry.mk .whole) ++
      ((family.parts.map fun part ↦
        memoryAttributes ignoreDdr (listed (vendor (.memories part.handle)))).mapIdx
          fun k attributes ↦ attributes.map (MemoryEntry.mk (.part k))).flatten := by
  rw [memoryFromCore, Traced.value_bind, Traced.value_bind, Traced.value_collect, value_memoryOf]
  simp only [value_memoryOf]
  rfl

private theorem entriesAt_flatten_mapIdx (place : MemoryPlace) (placeOf : Nat → MemoryPlace)
    (lists : List (List Attribute)) :
    entriesAt place (lists.mapIdx fun i attributes ↦
        attributes.map (MemoryEntry.mk (placeOf i))).flatten =
      (lists.mapIdx fun i attributes ↦ if placeOf i = place then attributes else []).flatten := by
  induction lists generalizing placeOf with
  | nil => rfl
  | cons attributes lists ih =>
    rw [List.mapIdx_cons, List.mapIdx_cons, List.flatten_cons, List.flatten_cons, entriesAt_append,
      entriesAt_map, ih fun i ↦ placeOf (i + 1)]

private theorem entriesAt_whole_memoryFromCore (ignoreDdr : Bool) :
    entriesAt .whole (memoryFromCore vendor family ignoreDdr).value =
      memoryAttributes ignoreDdr (listed (vendor (.memories family.whole.handle))) := by
  rw [value_memoryFromCore, entriesAt_append, entriesAt_map, if_pos rfl,
    entriesAt_flatten_mapIdx .whole .part]
  simp

private theorem entriesAt_part_memoryFromCore (ignoreDdr : Bool) {k : Nat} {part : NamedDevice}
    (h : family.parts[k]? = some part) :
    entriesAt (.part k) (memoryFromCore vendor family ignoreDdr).value =
      memoryAttributes ignoreDdr (listed (vendor (.memories part.handle))) := by
  rw [value_memoryFromCore, entriesAt_append, entriesAt_map,
    if_neg (MemoryPlace.whole_ne_part k), List.nil_append,
    entriesAt_flatten_mapIdx (.part k) .part]
  simp only [MemoryPlace.part.injEq]
  rw [flatten_mapIdx_ite, List.getElem?_map, h]
  rfl

/-- A device that the core interface serves has what this finds. -/
theorem entries_of_core (h : servingSource vendor choice family.whole.handle = .core) :
    (memorySizes vendor family choice).value.2 =
      (memoryFromCore vendor family (ignoresDdr choice family)).value := by
  obtain ⟨preference, source⟩ := choice
  cases source with
  | core => rfl
  | sysman => cases h
  | unresolved =>
    cases preference with
    | sysman => cases h
    | core => rfl
    | coreWithDdr => rfl
    | auto =>
      unfold servingSource at h
      cases hlist : vendor (.modules family.whole.handle) with
      | ok handles =>
        rw [hlist] at h
        cases h
      | error fault =>
        -- After a trial in vain the source is another, but the preference is the same.
        rw [memorySizes, tryModules, Traced.value_bind, value_memoryFromModules_of_error hlist]
        rfl

end Entries

/-- Some drafts, each of a device or subdevice, are noted with what the vendor lists for that very
one, and no other draft changes. -/
structure NotedByOwnList (vendor : Answers) (preference : MemoryPreference) (integrated : Bool)
    (members : List DraftedPart) (before after : Drafts) : Prop where
  member : ∀ m ∈ members, after.get? m.draft = (before.get? m.draft).map
    (·.note (coreNotes preference integrated (listed (vendor (.memories m.handle)))))
  other : ∀ id, id ∉ members.map DraftedPart.draft → after.get? id = before.get? id

section Drafted

variable {vendor : Answers} {choice : MemoryChoice}

private theorem notedByOwnList_noteEntries {family : DeviceFamily} {root : DraftId}
    {parts : List DraftedPart}
    (hserved : servingSource vendor choice family.whole.handle = .core)
    (hparts : parts.map DraftedPart.handle = family.parts.map NamedDevice.handle)
    (hdistinct : (root :: parts.map DraftedPart.draft).Nodup) (ds : Drafts) :
    NotedByOwnList vendor choice.preference family.integrated
      (⟨family.whole.handle, root⟩ :: parts) ds
      (ds.noteEntries root (parts.map DraftedPart.draft)
        (memorySizes vendor family choice).value.2) := by
  rw [entries_of_core hserved]
  constructor
  case other => exact fun id hid ↦ Drafts.get?_noteEntries_of_apart hid ds _
  case member =>
    intro m hm
    cases List.mem_cons.mp hm with
    | inl he =>
      cases he
      have hroot := (List.nodup_cons.mp hdistinct).1
      rw [Drafts.get?_noteEntries (Drafts.locate?_eq_whole hroot),
        entriesAt_whole_memoryFromCore, memoryAttributes_eq_coreNotes]
    | inr hpart =>
      obtain ⟨k, hk⟩ := List.mem_iff_getElem?.mp hpart
      have hdraft : (parts.map DraftedPart.draft)[k]? = some m.draft := by
        rw [List.getElem?_map, hk]
        rfl
      have hhandle : (family.parts.map NamedDevice.handle)[k]? = some m.handle := by
        rw [← hparts, List.getElem?_map, hk]
        rfl
      obtain ⟨part, hfamily, hsame⟩ := Option.map_eq_some_iff.mp (List.getElem?_map ▸ hhandle)
      rw [Drafts.get?_noteEntries (Drafts.locate?_eq_part hdistinct hdraft),
        entriesAt_part_memoryFromCore _ hfamily, memoryAttributes_eq_coreNotes, hsame]

variable (vendor : Answers) (config : Configuration) (switch : SysmanState)
  (choice : MemoryChoice) (listing : Listing)

/-- Whether a device says that it shares the host's memory. -/
def saysIntegrated (device : DeviceHandle) : Bool :=
  match vendor (.properties device) with
  | .error _ => false
  | .ok p => p.isIntegrated

private theorem integrated_surveyDevice :
    (surveyDevice vendor config switch listing).value.family.integrated =
      saysIntegrated vendor listing.device := by
  let name := (wholeSheet config listing).name
  have hprofile : (surveyDevice vendor config switch listing).value.family.integrated =
      (deviceProfile vendor name listing.device .whole switch).value.integrated := rfl
  have hproperties : (coreProperties vendor name listing.device).value.any (·.isIntegrated) =
      saysIntegrated vendor listing.device := by
    rw [coreProperties, Traced.value_bind, value_ask, saysIntegrated]
    cases vendor (.properties listing.device) with
    | error fault => rfl
    | ok p =>
      dsimp only
      cases p.deviceType <;> rfl
  rw [hprofile, ← hproperties, deviceProfile, Traced.value_bind]
  dsimp only
  split <;> rfl

end Drafted

/-- A device that the core interface serves has itself and its subdevices noted with what the vendor
lists for each, whichever drafts these are in and however many others there are; only whether the
device is integrated tells what to leave out. So it is with the drafts that the device is described
in, one for itself and one for each subdevice. -/
theorem core_memory_by_own_list {vendor : Answers} {choice : MemoryChoice} {device : DeviceHandle}
    (hserved : servingSource vendor choice device = .core) :
    (∀ (family : DeviceFamily) (root : DraftId) (parts : List DraftedPart) (ds : Drafts),
      family.whole.handle = device →
      parts.map DraftedPart.handle = family.parts.map NamedDevice.handle →
      (root :: parts.map DraftedPart.draft).Nodup →
      NotedByOwnList vendor choice.preference family.integrated (⟨device, root⟩ :: parts) ds
        (ds.noteEntries root (parts.map DraftedPart.draft)
          (memorySizes vendor family choice).value.2)) ∧
    ∀ (config : Configuration) (switch : SysmanState) (listing : Listing),
      listing.device = device →
      let members := ⟨device, ⟨0⟩⟩ :: draftedParts 0 (subdeviceHandles vendor device)
      let before :=
        Drafts.ofDescription (surveyDevice vendor config switch listing).value.description
      (∀ m ∈ members, (before.get? m.draft).isSome) ∧
        NotedByOwnList vendor choice.preference (saysIntegrated vendor device) members before
          (draftDevice vendor config switch choice listing).value.drafts := by
  constructor
  case left =>
    rintro family root parts ds rfl hparts hdistinct
    exact notedByOwnList_noteEntries hserved hparts hdistinct ds
  case right =>
    rintro config switch listing rfl members before
    have hdrafts : members.map DraftedPart.draft = ⟨0⟩ :: Drafts.partIds
        (surveyDevice vendor config switch listing).value.description.parts.length := by
      rw [List.map_cons, map_draft_draftedParts, length_parts_surveyDevice]
    constructor
    · intro m hm
      rw [Drafts.isSome_get?_ofDescription, ← hdrafts]
      exact List.mem_map_of_mem hm
    · rw [drafts_draftDevice, ← integrated_surveyDevice vendor config switch listing,
        ← map_draft_draftedParts]
      refine notedByOwnList_noteEntries hserved ?_ ?_ before
      · rw [map_handle_draftedParts, map_handle_surveyDevice]
      · rw [map_draft_draftedParts]
        exact Drafts.nodup_cons_partIds _

/-- A vendor of an integrated device whose modules it cannot list, with two subdevices that do not
say that they are integrated: it lists three memories of the device, none of the first subdevice and
two of the second. -/
def integratedVendor : Answers
  | .properties ⟨6⟩ => .ok ⟨.gpu, 0, 0, 1, 0, 0, 0, 0, 0, ""⟩
  | .properties ⟨9⟩ => .ok ⟨.gpu, 0, 0, 2, 0, 0, 0, 0, 0, ""⟩
  | .subdevices ⟨6⟩ => .ok [⟨8⟩, ⟨9⟩]
  | .memories ⟨6⟩ => .ok [⟨0, 0, 0, 4096, "DDR"⟩, ⟨0, 0, 0, 2048, ""⟩, ⟨0, 0, 0, 0, "HBM"⟩]
  | .memories ⟨9⟩ => .ok [⟨0, 0, 0, 8192, "DDR"⟩, ⟨0, 0, 0, 1024, "HBM"⟩]
  | q => .error (.missingEntry q.entryPoint.symbol)

/-- The DDR is left out on the second subdevice too, which is noted with the rest of its list
although the first has none. -/
theorem integrated_memory_by_own_list :
    let choice : MemoryChoice := ⟨.auto, .unresolved⟩
    let listing : Listing := ⟨0, 0, 0, ⟨6⟩⟩
    let before := Drafts.ofDescription
      (surveyDevice integratedVendor {} .enabled listing).value.description
    let after := (draftDevice integratedVendor {} .enabled choice listing).value.drafts
    servingSource integratedVendor choice ⟨6⟩ = .core ∧
    after.get? ⟨0⟩ = (before.get? ⟨0⟩).map (·.note [⟨"LevelZeroMemorySize", "2"⟩]) ∧
    after.get? ⟨1⟩ = (before.get? ⟨1⟩).map (·.note []) ∧
    after.get? ⟨2⟩ = (before.get? ⟨2⟩).map (·.note [⟨"LevelZeroHBMSize", "1"⟩]) := by
  intro choice listing before after
  have hserved : servingSource integratedVendor choice ⟨6⟩ = .core := rfl
  obtain ⟨-, hdrafted⟩ := core_memory_by_own_list hserved
  obtain ⟨-, hnoted⟩ := hdrafted {} .enabled listing rfl
  have hwhole := hnoted.member ⟨⟨6⟩, ⟨0⟩⟩ (by decide)
  have hfirst := hnoted.member ⟨⟨8⟩, ⟨1⟩⟩ (by decide)
  have hsecond := hnoted.member ⟨⟨9⟩, ⟨2⟩⟩ (by decide)
  exact ⟨hserved, hwhole, hfirst, hsecond⟩

end AcceleratorTopology
