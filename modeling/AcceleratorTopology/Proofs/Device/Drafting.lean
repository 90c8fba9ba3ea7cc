import AcceleratorTopology.Device.Drafting
import AcceleratorTopology.Device.Handover
import AcceleratorTopology.Proofs.Device.Contents
import AcceleratorTopology.Proofs.Lists

/-!
# What a drafted device amounts to

Drafting a device step by step, each sheet in a draft of its own, and taking the drafts out again
comes to the description of the device: no sheet is lost, taken twice or mixed up with another.
Memory entries go to the drafts at which the places that they belong to are located.
-/

namespace AcceleratorTopology

open Vendor Settings

namespace Drafts

/-- The positions of `count` subdevices that are drafted right after the whole device. -/
def partIds (count : Nat) : List DraftId := (List.range count).map fun k ↦ ⟨k + 1⟩

/-- The workspace in which a described device stands: the whole first, then its subdevices, each
linked below it. -/
def ofDescription (d : Description) : Drafts :=
  ⟨⟨d.whole, partIds d.parts.length⟩ :: d.parts.map fun s ↦ ⟨s, []⟩⟩

private theorem partIds_succ (count : Nat) :
    partIds (count + 1) = partIds count ++ [⟨count + 1⟩] := by
  simp [partIds, List.range_succ]

/-- There are as many positions as subdevices. -/
@[simp] theorem length_partIds (count : Nat) : (partIds count).length = count := by
  rw [partIds, List.length_map, List.length_range]

private theorem nodup_partIds (count : Nat) : (partIds count).Nodup := by
  apply List.pairwise_map.mpr
  apply List.nodup_range.imp
  intro j k hjk he
  exact hjk (by simpa using he)

/-- No subdevice has the position of the whole device either. -/
theorem nodup_cons_partIds (count : Nat) : (⟨0⟩ :: partIds count).Nodup := by
  refine List.nodup_cons.mpr ⟨?_, nodup_partIds count⟩
  simp [partIds]

private theorem nextId_ofDescription (d : Description) :
    (ofDescription d).nextId = ⟨d.parts.length + 1⟩ := by
  simp [ofDescription, nextId, size]

/-- A draft that is started in an empty workspace is a whole device without subdevices. -/
theorem start_empty (s : Sheet) : (({} : Drafts).start s) = ofDescription ⟨s, []⟩ := rfl

/-- Noting on the first draft notes on the whole device. -/
theorem note_whole (d : Description) (attributes : List Attribute) :
    (ofDescription d).note ⟨0⟩ attributes =
      ofDescription ⟨d.whole.note attributes, d.parts⟩ := rfl

private theorem note_part (d : Description) (k : Nat) (attributes : List Attribute) :
    (ofDescription d).note ⟨k + 1⟩ attributes =
      ofDescription ⟨d.whole, d.parts.modify k (·.note attributes)⟩ := by
  have h : ((d.parts.map fun s ↦ (⟨s, []⟩ : Draft)).modify k
      fun draft ↦ { draft with sheet := draft.sheet.note attributes }) =
      (d.parts.modify k (·.note attributes)).map fun s ↦ ⟨s, []⟩ := by
    apply List.ext_getElem?
    intro i
    simp only [List.getElem?_modify, List.getElem?_map]
    cases d.parts[i]? <;> grind
  simp [ofDescription, note, modify, h]

private theorem link_start (d : Description) (s : Sheet) (first second : List Attribute) :
    ((((ofDescription d).start s).note ⟨d.parts.length + 1⟩ first).note ⟨d.parts.length + 1⟩
        second).link ⟨0⟩ ⟨d.parts.length + 1⟩ =
      ofDescription ⟨d.whole, d.parts ++ [s.note (first ++ second)]⟩ := by
  have hm (f : Draft → Draft) (x : Draft) :
      ((d.parts.map fun s ↦ (⟨s, []⟩ : Draft)) ++ [x]).modify d.parts.length f =
        (d.parts.map fun s ↦ (⟨s, []⟩ : Draft)) ++ [f x] := by
    have h := modify_append_length (d.parts.map fun s ↦ (⟨s, []⟩ : Draft)) x f
    rwa [List.length_map] at h
  simp [ofDescription, start, note, link, modify, add, nextId, size, hm, partIds_succ, Sheet.note]

private theorem noteEntry_ofDescription (d : Description) (e : MemoryEntry) :
    noteEntry ⟨0⟩ (partIds d.parts.length) (ofDescription d) e =
      ofDescription (d.noteMemory [e]) := by
  obtain ⟨place, attr⟩ := e
  cases place with
  | whole => simp [noteEntry, locate?, note_whole, Description.noteMemory_whole]
  | part k =>
    rw [Description.noteMemory_part]
    by_cases hk : k < d.parts.length
    · simp [noteEntry, locate?, partIds, hk, note_part]
    · have hs : d.parts.modify k (·.note [attr]) = d.parts := List.modify_eq_self (by omega)
      simp [noteEntry, locate?, partIds, hk, hs]

/-- Entries are noted on the sheets that they belong to. -/
theorem noteEntries_ofDescription (d : Description) (entries : List MemoryEntry) :
    (ofDescription d).noteEntries ⟨0⟩ (partIds d.parts.length) entries =
      ofDescription (d.noteMemory entries) := by
  induction entries generalizing d with
  | nil => simp [noteEntries]
  | cons e entries ih =>
    rw [Description.noteMemory_cons, ← ih (d.noteMemory [e]),
      Description.length_parts_noteMemory]
    simp only [noteEntries, List.foldl_cons, noteEntry_ofDescription]

private theorem sheet_take (ds : Drafts) {id j : DraftId} (h : id ≠ j) :
    (ds.take id).2.sheet j = ds.sheet j := by
  have hi : id.index ≠ j.index := fun he ↦ h (congrArg DraftId.mk he)
  simp [take, sheet, get?, modify, hi]

private theorem takeAll_fst (ds : Drafts) (ids : List DraftId) (h : ids.Nodup) :
    (ds.takeAll ids).1 = ids.map ds.sheet := by
  induction ids generalizing ds with
  | nil => rfl
  | cons id ids ih =>
    obtain ⟨hn, ht⟩ := List.nodup_cons.mp h
    simp only [takeAll, ih _ ht, List.map_cons, List.cons.injEq]
    refine ⟨rfl, List.map_congr_left ?_⟩
    intro j hj
    exact sheet_take ds fun he ↦ hn (he ▸ hj)

private theorem map_sheet_partIds (d : Description) :
    (partIds d.parts.length).map (ofDescription d).sheet = d.parts := by
  apply List.ext_getElem
  · simp [partIds]
  · intro k hk hd
    simp [partIds, ofDescription, sheet, get?, hd]

/-- The drafts of a described device are that of the whole and those of its subdevices. -/
theorem isSome_get?_ofDescription {d : Description} {id : DraftId} :
    ((ofDescription d).get? id).isSome = true ↔ id ∈ ⟨0⟩ :: partIds d.parts.length := by
  obtain ⟨index⟩ := id
  cases index with
  | zero => simp [ofDescription, get?]
  | succ k => simp [ofDescription, get?, partIds]

/-- Taking a described device out of its workspace gives its description. -/
theorem handOver_ofDescription (d : Description) : (ofDescription d).handOver ⟨0⟩ = d := by
  have hroot : ∀ j ∈ partIds d.parts.length, (⟨0⟩ : DraftId) ≠ j :=
    (List.pairwise_cons.mp (nodup_cons_partIds _)).1
  have hparts : (((ofDescription d).take ⟨0⟩).2.takeAll (partIds d.parts.length)).1 = d.parts := by
    rw [takeAll_fst _ _ (nodup_partIds _)]
    refine Eq.trans (List.map_congr_left ?_) (map_sheet_partIds d)
    intro j hj
    exact sheet_take _ (hroot j hj)
  simp only [handOver]
  exact congrArg (Description.mk d.whole) hparts

end Drafts

/-- Notes further attributes on the sheet of a draft. -/
def Draft.note (d : Draft) (attributes : List Attribute) : Draft :=
  { d with sheet := d.sheet.note attributes }

/-- Noting nothing changes nothing. -/
@[simp] theorem Draft.note_nil (d : Draft) : d.note [] = d := by
  rw [note, Sheet.note_nil]

/-- Noting twice is noting once, in order. -/
theorem Draft.note_note (d : Draft) (first second : List Attribute) :
    (d.note first).note second = d.note (first ++ second) :=
  congrArg (Draft.mk · d.children) (Sheet.note_note _ _ _)

namespace Drafts

/-- Noting on a draft leaves the others as they are. -/
theorem get?_note (ds : Drafts) (id j : DraftId) (attributes : List Attribute) :
    (ds.note id attributes).get? j =
      if id = j then (ds.get? j).map (·.note attributes) else ds.get? j := by
  have hindex : id.index = j.index ↔ id = j := by
    rw [DraftId.mk.injEq]
  rw [note, modify, get?, get?, List.getElem?_modify]
  simp only [hindex]
  split <;> cases ds.drafts[j.index]? <;> rfl

section Located

variable {whole id : DraftId} {parts : List DraftId} {place : MemoryPlace}

/-- The attributes of the entries that are located at a draft, in order. -/
def locatedAt (whole : DraftId) (parts : List DraftId) (id : DraftId)
    (entries : List MemoryEntry) : List Attribute :=
  (entries.filter fun e ↦ locate? whole parts e.place = some id).map (·.attr)

private theorem get?_noteEntry (ds : Drafts) (e : MemoryEntry) :
    (noteEntry whole parts ds e).get? id =
      (ds.get? id).map (·.note (locatedAt whole parts id [e])) := by
  rw [noteEntry]
  cases h : locate? whole parts e.place with
  | none => simp [locatedAt, h]
  | some other =>
    dsimp only
    rw [get?_note]
    by_cases hid : other = id
    · simp [locatedAt, h, hid]
    · simp [locatedAt, h, hid]

private theorem get?_noteEntries_eq_note (ds : Drafts) (entries : List MemoryEntry) :
    (ds.noteEntries whole parts entries).get? id =
      (ds.get? id).map (·.note (locatedAt whole parts id entries)) := by
  induction entries generalizing ds with
  | nil => simp [noteEntries, locatedAt]
  | cons e entries ih =>
    have hcons : ds.noteEntries whole parts (e :: entries) =
        (noteEntry whole parts ds e).noteEntries whole parts entries := rfl
    have hlocated : locatedAt whole parts id (e :: entries) =
        locatedAt whole parts id [e] ++ locatedAt whole parts id entries := by
      rw [locatedAt, ← List.singleton_append, List.filter_append, List.map_append]
      rfl
    rw [hcons, ih, get?_noteEntry, Option.map_map, hlocated]
    exact congrArg (Option.map · (ds.get? id)) (funext fun d ↦ d.note_note _ _)

/-- A draft at which one place is located gets the entries that belong there. -/
theorem get?_noteEntries (h : ∀ other, locate? whole parts other = some id ↔ other = place)
    (ds : Drafts) (entries : List MemoryEntry) :
    (ds.noteEntries whole parts entries).get? id =
      (ds.get? id).map (·.note (entriesAt place entries)) := by
  have hlocated : locatedAt whole parts id entries = entriesAt place entries := by
    simp only [locatedAt, entriesAt, h, beq_eq_decide]
  rw [get?_noteEntries_eq_note, hlocated]

/-- A draft at which no place is located stays as it is. -/
theorem get?_noteEntries_of_apart (h : id ∉ whole :: parts) (ds : Drafts)
    (entries : List MemoryEntry) : (ds.noteEntries whole parts entries).get? id = ds.get? id := by
  rw [List.mem_cons, not_or] at h
  obtain ⟨hwhole, hparts⟩ := h
  have hapart (place : MemoryPlace) : locate? whole parts place ≠ some id := by
    cases place with
    | whole => exact fun he ↦ hwhole (Option.some.inj he).symm
    | part k => exact fun he ↦ hparts (List.mem_of_getElem? he)
  have hlocated : locatedAt whole parts id entries = [] := by
    simp [locatedAt, hapart]
  rw [get?_noteEntries_eq_note, hlocated]
  simp

end Located

/-- Only the whole device is located at its draft, unless a subdevice is drafted there. -/
theorem locate?_eq_whole {whole : DraftId} {parts : List DraftId} (h : whole ∉ parts)
    (place : MemoryPlace) : locate? whole parts place = some whole ↔ place = .whole := by
  cases place with
  | whole => exact iff_of_true rfl rfl
  | part k => exact iff_of_false (fun hk ↦ h (List.mem_of_getElem? hk)) nofun

/-- Only one subdevice is located at its draft, if all drafts are different. -/
theorem locate?_eq_part {whole id : DraftId} {parts : List DraftId} (h : (whole :: parts).Nodup)
    {k : Nat} (hk : parts[k]? = some id) (place : MemoryPlace) :
    locate? whole parts place = some id ↔ place = .part k := by
  obtain ⟨hwhole, hparts⟩ := List.nodup_cons.mp h
  cases place with
  | whole =>
    refine iff_of_false (fun he ↦ hwhole ?_) nofun
    rw [Option.some.inj he]
    exact List.mem_of_getElem? hk
  | part j =>
    obtain ⟨hlt, -⟩ := List.getElem?_eq_some_iff.mp hk
    rw [MemoryPlace.part.injEq]
    refine ⟨fun hj ↦ ?_, fun hj ↦ hj ▸ hk⟩
    exact ((List.getElem?_inj hlt hparts).mp (hk.trans hj.symm)).symm

end Drafts

open Drafts

private theorem draftPart_ofDescription (vendor : Answers) (switch : SysmanState) (whole : String)
    (d : Description) (parts : List DraftedPart) (handle : DeviceHandle) (k : Nat) :
    draftPart vendor switch whole ⟨0⟩ ⟨ofDescription d, parts⟩ (handle, k) =
      (fun s ↦ ⟨ofDescription ⟨d.whole, d.parts ++ [s]⟩,
        parts ++ [⟨handle, ⟨d.parts.length + 1⟩⟩]⟩) <$>
          describePart vendor switch whole k handle := by
  apply Traced.ext
  · simp [draftPart, describePart]
  · simp [draftPart, describePart, nextId_ofDescription, link_start]

/-- The subdevices with their drafts, if the first one is drafted after `count` others. -/
def draftedParts (count : Nat) (handles : List DeviceHandle) : List DraftedPart :=
  (handles.zipIdx count).map fun numbered ↦ ⟨numbered.1, ⟨numbered.2 + 1⟩⟩

private theorem foldlM_draftPart (vendor : Answers) (switch : SysmanState) (whole : String)
    (d : Description) (parts : List DraftedPart) (handles : List DeviceHandle) (k : Nat) :
    (handles.zipIdx k).foldlM (draftPart vendor switch whole ⟨0⟩) ⟨ofDescription d, parts⟩ =
      (fun sheets ↦ ⟨ofDescription ⟨d.whole, d.parts ++ sheets⟩,
        parts ++ draftedParts d.parts.length handles⟩) <$>
          Traced.collect (fun numbered ↦ describePart vendor switch whole numbered.2 numbered.1)
            (handles.zipIdx k) := by
  induction handles generalizing d parts k with
  | nil => simp [draftedParts, Traced.collect, Functor.map, pure]
  | cons handle handles ih =>
    rw [List.zipIdx_cons, List.foldlM_cons, draftPart_ofDescription, Traced.collect_cons,
      bind_map_left, map_bind]
    congr 1
    funext s
    rw [ih, Functor.map_map]
    simp [draftedParts]

/-- The subdevices that are drafted are those that were to be. -/
theorem map_handle_draftedParts (count : Nat) (handles : List DeviceHandle) :
    (draftedParts count handles).map DraftedPart.handle = handles := by
  rw [draftedParts, List.map_map]
  exact List.zipIdx_map_fst count handles

/-- The drafts of the subdevices are at the positions right after the whole device. -/
theorem map_draft_draftedParts (handles : List DeviceHandle) :
    (draftedParts 0 handles).map DraftedPart.draft = partIds handles.length := by
  apply List.ext_getElem
  · simp [draftedParts, partIds]
  · intro k hk hp
    simp [draftedParts, partIds]

private theorem map_name_draftedParts (whole : Sheet) (handles : List DeviceHandle)
    (sheets : List Sheet) (h : sheets.length = handles.length) :
    (draftedParts 0 handles).map (fun part ↦
        (⟨part.handle, ((ofDescription ⟨whole, sheets⟩).sheet part.draft).name⟩ : NamedDevice)) =
      List.zipWith (fun handle s ↦ ⟨handle, s.name⟩) handles sheets := by
  apply List.ext_getElem
  · simp [draftedParts, h]
  · intro k hk hz
    have hs : k < sheets.length := by
      rw [List.length_zipWith] at hz
      omega
    simp [draftedParts, ofDescription, sheet, get?, hs]

/-- A device drafted in a workspace is the device as described, and the same happens on the way. -/
theorem draftDevice_eq (vendor : Answers) (config : Configuration) (switch : SysmanState)
    (choice : MemoryChoice) (listing : Listing) :
    draftDevice vendor config switch choice listing =
      (fun r ↦ ⟨r.1, ofDescription r.2, ⟨0⟩⟩) <$> describe vendor config switch choice listing := by
  have hroot : Drafts.nextId {} = ⟨0⟩ := rfl
  have hname (d : Description) : ((ofDescription d).sheet ⟨0⟩).name = d.whole.name := rfl
  simp only [draftDevice, describe, surveyDevice, bind_assoc, pure_bind, hroot, start_empty,
    note_whole, Sheet.note_note, foldlM_draftPart, bind_map_left, map_bind, List.nil_append,
    List.length_nil, hname, Sheet.name_note, map_draft_draftedParts]
  refine bind_congr fun profile ↦ bind_congr fun queues ↦ bind_congr fun handles ↦ ?_
  -- The sheets of the subdevices are as many as their handles, which the positions rest on.
  apply Traced.bind_congr_value
  have hlen := Traced.length_value_collect (fun numbered : DeviceHandle × Nat ↦
    describePart vendor switch (wholeSheet config listing).name numbered.2 numbered.1)
      handles.zipIdx
  generalize Traced.value (Traced.collect _ _) = sheets at hlen ⊢
  rw [List.length_zipIdx] at hlen
  rw [map_name_draftedParts _ _ _ hlen]
  apply bind_congr
  intro memory
  rw [← hlen, noteEntries_ofDescription ⟨_, sheets⟩]
  rfl

/-- The entries of memory sizes are what is noted last on the drafts of a device. -/
theorem drafts_draftDevice (vendor : Answers) (config : Configuration) (switch : SysmanState)
    (choice : MemoryChoice) (listing : Listing) :
    let survey := (surveyDevice vendor config switch listing).value
    (draftDevice vendor config switch choice listing).value.drafts =
      (ofDescription survey.description).noteEntries ⟨0⟩
        (partIds (subdeviceHandles vendor listing.device).length)
        (memorySizes vendor survey.family choice).value.2 := by
  intro survey
  rw [draftDevice_eq, Traced.value_map, ← length_parts_surveyDevice vendor config switch listing,
    noteEntries_ofDescription]
  rfl

end AcceleratorTopology
