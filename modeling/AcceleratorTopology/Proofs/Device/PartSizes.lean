import AcceleratorTopology.Proofs.Device.ModuleSizes
import AcceleratorTopology.Proofs.Device.Notes
import Mathlib.Algebra.BigOperators.Group.Finset.Piecewise

/-!
# What modules give to subdevices

Where memory sizes come from the modules of a device, each module that has a size gives it to the
subdevice that it is on, one note for each module, while the device as a whole gets sums. So the
notes on the subdevices add up to what the device says, but a look-up on a subdevice finds the first
of its notes only.
-/

namespace AcceleratorTopology

open Vendor Settings

namespace Attribute

/-- All values noted under a key, in order. -/
def valuesUnder (attributes : List Attribute) (key : String) : List String :=
  (attributes.filter (·.key == key)).map value

/-- A look-up finds the first value noted under a key. -/
theorem lookup?_eq_head? (attributes : List Attribute) (key : String) :
    lookup? attributes key = (valuesUnder attributes key).head? := by
  rw [valuesUnder, List.head?_map, List.head?_filter, lookup?]

/-- What is noted later comes after what is noted before. -/
theorem valuesUnder_append (first second : List Attribute) (key : String) :
    valuesUnder (first ++ second) key = valuesUnder first key ++ valuesUnder second key := by
  rw [valuesUnder, List.filter_append, List.map_append, valuesUnder, valuesUnder]

private theorem valuesUnder_eq_nil {attributes : List Attribute} {key : String}
    (h : ∀ a ∈ attributes, a.key ≠ key) : valuesUnder attributes key = [] := by
  rw [valuesUnder, List.map_eq_nil_iff, List.filter_eq_nil_iff]
  intro a ha he
  exact h a ha (eq_of_beq he)

end Attribute

/-- The key of the sizes of modules of a kind. -/
def Vendor.MemoryKind.sizeKey (kind : MemoryKind) : String := s!"LevelZero{kind.label}Size"

private theorem sizeKey_beq (first second : MemoryKind) :
    (first.sizeKey == second.sizeKey) = decide (first = second) := by
  cases first <;> cases second <;> decide

/-- These are keys of memory sizes. -/
theorem isSizeKey_sizeKey (kind : MemoryKind) : IsSizeKey kind.sizeKey :=
  isSizeKey_sizeAttribute kind.label 0

/-- A module is on subdevice number `k`. -/
def Vendor.ModuleDescription.IsOn (p : ModuleDescription) (k : Nat) : Prop :=
  p.onSubdevice = true ∧ p.subdeviceId.toNat = k

instance (p : ModuleDescription) (k : Nat) : Decidable (p.IsOn k) :=
  inferInstanceAs (Decidable (_ ∧ _))

/-- The sizes of the modules of a kind on subdevice number `k`, in KiB, in the order of the modules;
those without a size are left out. -/
def sizesOn (kind : MemoryKind) (k : Nat) (modules : List ModuleDescription) : List Nat :=
  (modules.filter fun p ↦ p.kind = kind ∧ p.IsOn k ∧ p.physicalSize ≠ 0).map fun p ↦
    toKiB p.physicalSize

/-- Later modules come after earlier ones. -/
theorem sizesOn_append (kind : MemoryKind) (k : Nat) (first second : List ModuleDescription) :
    sizesOn kind k (first ++ second) = sizesOn kind k first ++ sizesOn kind k second := by
  rw [sizesOn, List.filter_append, List.map_append, sizesOn, sizesOn]

section Entries

variable {parts : Nat}

private theorem entriesAt_part_entryOfModule? {k : Nat} (hk : k < parts) (p : ModuleDescription) :
    entriesAt (.part k) (entryOfModule? parts p).toList =
      if p.IsOn k ∧ p.physicalSize ≠ 0 then [sizeAttribute p.kind.label (toKiB p.physicalSize)]
      else [] := by
  by_cases hgives : p.IsOn k ∧ p.physicalSize ≠ 0
  · obtain ⟨⟨hpart, hnumber⟩, hsize⟩ := hgives
    have hentry : entryOfModule? parts p =
        some ⟨.part k, sizeAttribute p.kind.label (toKiB p.physicalSize)⟩ := by
      rw [entryOfModule?, hnumber, if_pos (by simp [hpart, hk, hsize])]
    rw [hentry, if_pos ⟨⟨hpart, hnumber⟩, hsize⟩]
    simp [entriesAt]
  · rw [if_neg hgives]
    unfold entryOfModule?
    split
    · next hentry =>
      simp only [Bool.and_eq_true, bne_iff_ne, ne_eq] at hentry
      have hother : p.subdeviceId.toNat ≠ k := fun h ↦ hgives ⟨⟨hentry.1.1, h⟩, hentry.2⟩
      simp [entriesAt, hother]
    · rfl

private theorem entriesAt_part_moduleEntries {k : Nat} (hk : k < parts)
    (modules : List ModuleDescription) :
    entriesAt (.part k) (moduleEntries parts modules) =
      (modules.filter fun p ↦ p.IsOn k ∧ p.physicalSize ≠ 0).map fun p ↦
        sizeAttribute p.kind.label (toKiB p.physicalSize) := by
  rw [moduleEntries, entriesAt_append, entriesAt_map, if_neg (MemoryPlace.whole_ne_part k),
    List.append_nil]
  induction modules with
  | nil => rfl
  | cons p modules ih =>
    have hentries : (p :: modules).filterMap (entryOfModule? parts) =
        (entryOfModule? parts p).toList ++ modules.filterMap (entryOfModule? parts) := by
      rw [List.filterMap_eq_flatMap_toList, List.flatMap_cons, ← List.filterMap_eq_flatMap_toList]
    rw [hentries, entriesAt_append, ih, entriesAt_part_entryOfModule? hk, List.filter_cons]
    by_cases hgives : p.IsOn k ∧ p.physicalSize ≠ 0 <;> simp [hgives]

private theorem valuesUnder_moduleEntries {k : Nat} (hk : k < parts) (kind : MemoryKind)
    (modules : List ModuleDescription) :
    Attribute.valuesUnder (entriesAt (.part k) (moduleEntries parts modules)) kind.sizeKey =
      (sizesOn kind k modules).map toString := by
  have hkey (p : ModuleDescription) : ((sizeAttribute p.kind.label (toKiB p.physicalSize)).key ==
      kind.sizeKey) = decide (p.kind = kind) := sizeKey_beq p.kind kind
  rw [entriesAt_part_moduleEntries hk, Attribute.valuesUnder, List.filter_map, List.map_map,
    List.filter_filter, sizesOn, List.map_map]
  simp only [Function.comp_def, hkey, Bool.decide_and]
  rfl

end Entries

private theorem lookup?_totalNotes {kind : MemoryKind} (hkind : kind ≠ .other)
    (modules : List ModuleDescription) :
    let total := totalOf kind modules
    Attribute.lookup? (totalNotes modules) kind.sizeKey =
      if 0 < total then some (toString (clamp total)) else none := by
  intro total
  cases kind with
  | other => exact absurd rfl hkind
  | hbm =>
    rw [totalNotes, Attribute.lookup?_append]
    by_cases hhbm : 0 < totalOf .hbm modules
    · rw [if_pos hhbm, if_pos hhbm]
      rfl
    · rw [if_neg hhbm, if_neg hhbm]
      split <;> rfl
  | ddr =>
    rw [totalNotes, Attribute.lookup?_append]
    have hhbm : Attribute.lookup? (if 0 < totalOf .hbm modules then
        [.number "LevelZeroHBMSize" (clamp (totalOf .hbm modules))] else [])
        MemoryKind.ddr.sizeKey = none := by
      split <;> rfl
    rw [hhbm, Option.none_or]
    split <;> rfl

private theorem sum_sizesOn_singleton (kind : MemoryKind) (k : Nat) (p : ModuleDescription) :
    (sizesOn kind k [p]).sum = if p.IsOn k then totalOf kind [p] else 0 := by
  rw [totalOf_singleton]
  by_cases hsize : p.physicalSize = 0
  · have hnothing : toKiB 0 = 0 := rfl
    simp [sizesOn, hsize, hnothing]
  · by_cases hkind : p.kind = kind
    · by_cases hon : p.IsOn k <;> simp [sizesOn, *]
    · simp [sizesOn, hkind]

/-- Where every module is on one of `n` subdevices, what the modules of a kind add up to is what
their sizes on the subdevices do. -/
theorem sum_sizesOn {n : Nat} {modules : List ModuleDescription}
    (h : ∀ p ∈ modules, ∃ k < n, p.IsOn k) (kind : MemoryKind) :
    ∑ k ∈ Finset.range n, (sizesOn kind k modules).sum = totalOf kind modules := by
  have hone (p : ModuleDescription) (hp : ∃ k < n, p.IsOn k) :
      ∑ k ∈ Finset.range n, (sizesOn kind k [p]).sum = totalOf kind [p] := by
    obtain ⟨number, hnumber, hpart, rfl⟩ := hp
    simp only [sum_sizesOn_singleton, ModuleDescription.IsOn, hpart, true_and, Finset.sum_ite_eq,
      Finset.mem_range, hnumber, if_true]
  induction modules with
  | nil => exact Finset.sum_const_zero
  | cons p modules ih =>
    have hsizes (k : Nat) : (sizesOn kind k (p :: modules)).sum =
        (sizesOn kind k [p]).sum + (sizesOn kind k modules).sum := by
      rw [← List.sum_append, ← sizesOn_append, List.singleton_append]
    have htotal : totalOf kind (p :: modules) = totalOf kind [p] + totalOf kind modules :=
      totalOf_append kind [p] modules
    simp only [hsizes]
    rw [Finset.sum_add_distrib, hone p (h p List.mem_cons_self),
      ih fun q hq ↦ h q (List.mem_cons_of_mem p hq), htotal]

/-- The modules of a device are noted on the drafts of its subdevices: on that of subdevice number
`k`, in the order of the modules, one size for each that can be described, is on a subdevice, has
that number and has a size. Drafts that are neither that of the device nor that of a subdevice stay
as they are, and all do if the modules cannot be listed. -/
structure NotedByModules (vendor : Answers) (device : DeviceHandle) (root : DraftId)
    (parts : List DraftId) (before after : Drafts) : Prop where
  part : ∀ handles, vendor (.modules device) = .ok handles → ∀ k id, parts[k]? = some id →
    after.get? id = (before.get? id).map (·.note
      (((sizedModules vendor handles).filter fun p ↦
        p.onSubdevice = true ∧ p.subdeviceId.toNat = k ∧ p.physicalSize ≠ 0).map fun p ↦
          .number ("LevelZero" ++ p.kind.label ++ "Size") (toKiB p.physicalSize)))
  other : ∀ id, id ∉ root :: parts → after.get? id = before.get? id
  unlisted : ∀ fault, vendor (.modules device) = .error fault → after = before

private theorem notedByModules_noteEntries {vendor : Answers} {family : DeviceFamily}
    {choice : MemoryChoice} {root : DraftId} {parts : List DraftId}
    (hserved : servingSource vendor choice family.whole.handle = .sysman)
    (hdistinct : (root :: parts).Nodup) (hlength : parts.length = family.parts.length)
    (ds : Drafts) :
    NotedByModules vendor family.whole.handle root parts ds
      (ds.noteEntries root parts (memorySizes vendor family choice).value.2) := by
  rw [entries_of_sysman hserved]
  constructor
  case part =>
    intro handles hlist k id hk
    have hlt : k < family.parts.length := hlength ▸ (List.getElem?_eq_some_iff.mp hk).1
    rw [Drafts.get?_noteEntries (Drafts.locate?_eq_part hdistinct hk), moduleHandles_of_ok hlist,
      entriesAt_part_moduleEntries hlt]
    simp only [ModuleDescription.IsOn, and_assoc]
    rfl
  case other => exact fun id hid ↦ Drafts.get?_noteEntries_of_apart hid ds _
  case unlisted =>
    intro fault hlist
    rw [moduleHandles_of_error hlist]
    rfl

private theorem warns_memorySizes_unlisted {vendor : Answers} {family : DeviceFamily}
    {choice : MemoryChoice} {fault : Fault}
    (hlist : vendor (.modules family.whole.handle) = .error fault) :
    Warns (memorySizes vendor family choice) [] := by
  have hwarns := warns_memorySizes vendor family choice
  rw [attributionWarnings, moduleHandles_of_error hlist] at hwarns
  simpa using hwarns

/-- A device that the management interface serves has its subdevices noted by its modules, whichever
drafts these are in and however many others there are, and no warning is recorded if the modules
cannot be listed. So it is with the drafts that the device is described in, one for itself and one
for each subdevice. -/
theorem modules_attributed {vendor : Answers} {choice : MemoryChoice} {device : DeviceHandle}
    (hserved : servingSource vendor choice device = .sysman) :
    (∀ (family : DeviceFamily) (root : DraftId) (parts : List DraftId) (ds : Drafts),
      family.whole.handle = device → (root :: parts).Nodup → parts.length = family.parts.length →
      let run := memorySizes vendor family choice
      NotedByModules vendor device root parts ds (ds.noteEntries root parts run.value.2) ∧
        ∀ fault, vendor (.modules device) = .error fault →
          ∀ record : Warnings, (record.observe run.events).1 = record) ∧
    ∀ (config : Configuration) (switch : SysmanState) (listing : Listing),
      listing.device = device →
      let parts := Drafts.partIds (subdeviceHandles vendor device).length
      let before :=
        Drafts.ofDescription (surveyDevice vendor config switch listing).value.description
      (∀ id ∈ ⟨0⟩ :: parts, (before.get? id).isSome) ∧
        NotedByModules vendor device ⟨0⟩ parts before
          (draftDevice vendor config switch choice listing).value.drafts := by
  constructor
  case left =>
    rintro family root parts ds rfl hdistinct hlength run
    refine ⟨notedByModules_noteEntries hserved hdistinct hlength ds, ?_⟩
    exact fun fault hlist ↦ (warns_memorySizes_unlisted hlist).observe_silent
  case right =>
    rintro config switch listing rfl parts before
    constructor
    · intro id hid
      rw [Drafts.isSome_get?_ofDescription, length_parts_surveyDevice]
      exact hid
    · have hlength : parts.length =
          (surveyDevice vendor config switch listing).value.family.parts.length := by
        rw [length_family_parts, Drafts.length_partIds]
      rw [drafts_draftDevice]
      exact notedByModules_noteEntries hserved (Drafts.nodup_cons_partIds _) hlength before

/-- The module that is on the subdevice and the one there whose size is up to its state are noted on
it, but neither the one with its number that is on no subdevice nor the one on another. -/
theorem assorted_modules_attributed :
    let choice : MemoryChoice := ⟨.auto, .unresolved⟩
    let ds : Drafts := ⟨[{ sheet := { name := "ze0" } }, { sheet := { name := "ze0.0" } },
      { sheet := { name := "ze1" } }]⟩
    let after := ds.noteEntries ⟨0⟩ [⟨1⟩] (memorySizes assortedVendor assortedFamily choice).value.2
    servingSource assortedVendor choice ⟨6⟩ = .sysman ∧
    after.get? ⟨2⟩ = ds.get? ⟨2⟩ ∧
    after.get? ⟨1⟩ = some { sheet := ⟨"ze0.0", none,
      [⟨"LevelZeroHBMSize", "2"⟩, ⟨"LevelZeroDDRSize", "8"⟩]⟩ } := by
  intro choice ds after
  have hserved : servingSource assortedVendor choice ⟨6⟩ = .sysman := rfl
  obtain ⟨hfamily, -⟩ := modules_attributed hserved
  obtain ⟨hnoted, -⟩ := hfamily assortedFamily ⟨0⟩ [⟨1⟩] ds rfl (by decide) rfl
  exact ⟨hserved, hnoted.other ⟨2⟩ (by decide), hnoted.part _ rfl 0 ⟨1⟩ rfl⟩

section Describe

variable {vendor : Answers} {config : Configuration} {switch : SysmanState}
  {choice : MemoryChoice} {listing : Listing}

private theorem ToldApart.key_ne_sizeKey {notes : List Attribute} (h : ToldApart notes)
    (kind : MemoryKind) : ∀ a ∈ notes, a.key ≠ kind.sizeKey :=
  fun a ha he ↦ h.unsized a ha (he ▸ isSizeKey_sizeKey kind)

private theorem memoryEntries_of_sysman (h : servingSource vendor choice listing.device = .sysman) :
    memoryEntries vendor config switch choice listing =
      moduleEntries (subdeviceHandles vendor listing.device).length
        (sizedModules vendor (moduleHandles vendor listing.device)) := by
  rw [memoryEntries, entries_of_sysman h, length_family_parts]
  rfl

/-- On a subdevice the sizes of the modules on it are noted, in order. -/
theorem valuesUnder_describe_part (h : servingSource vendor choice listing.device = .sysman)
    {k : Nat} {part : Sheet}
    (hpart : (describe vendor config switch choice listing).value.2.parts[k]? = some part)
    (kind : MemoryKind) :
    Attribute.valuesUnder part.attributes kind.sizeKey =
      (sizesOn kind k (sizedModules vendor (moduleHandles vendor listing.device))).map
        toString := by
  have hk : k < (subdeviceHandles vendor listing.device).length := by
    rw [← length_describe_parts vendor config switch choice listing]
    exact (List.getElem?_eq_some_iff.mp hpart).1
  have hapart := keptApart_describe_part vendor config switch choice listing hpart
    (List.getElem?_eq_getElem hk)
  have hnotes := (toldApart_partNotes vendor k
    (subdeviceHandles vendor listing.device)[k]).key_ne_sizeKey kind
  rw [hapart.attributes_eq, Attribute.valuesUnder_append, Attribute.valuesUnder_eq_nil hnotes,
    List.nil_append, memoryEntries_of_sysman h, valuesUnder_moduleEntries hk]

/-- On a whole device the total of the modules is found. -/
theorem lookup?_describe_whole (h : servingSource vendor choice listing.device = .sysman)
    {kind : MemoryKind} (hkind : kind ≠ .other) :
    let total := totalOf kind (sizedModules vendor (moduleHandles vendor listing.device))
    Attribute.lookup? (describe vendor config switch choice listing).value.2.whole.attributes
      kind.sizeKey = if 0 < total then some (toString (clamp total)) else none := by
  have hapart := keptApart_describe_whole vendor config switch choice listing
  have hnotes := (toldApart_wholeNotes vendor listing.driver listing.position
    listing.device).key_ne_sizeKey kind
  rw [hapart.attributes_eq, Attribute.lookup?_append, Attribute.lookup?_eq_none_iff.mpr hnotes,
    Option.none_or, memoryEntries_of_sysman h, entriesAt_whole_moduleEntries,
    lookup?_totalNotes hkind]

end Describe

end AcceleratorTopology
