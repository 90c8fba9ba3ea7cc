import AcceleratorTopology.Proofs.Device.Drafting
import AcceleratorTopology.Proofs.Device.Warnings
import Mathlib.Algebra.GroupWithZero.Nat

/-!
# What modules add up to

Where memory sizes come from the modules of a device, each module counts on the device as a whole,
whatever subdevice it is on. A sum that stops at the greatest 64-bit number with every module is the
sum of all of them, stopped there once.
-/

namespace AcceleratorTopology

open Vendor Settings

section Entries

variable {vendor : Answers} {family : DeviceFamily} {choice : MemoryChoice}

private theorem entries_sysmanEntries :
    (sysmanEntries vendor family choice).value.2 = moduleEntries family.parts.length
      (sizedModules vendor (moduleHandles vendor family.whole.handle)) := by
  rw [sysmanEntries, Traced.value_bind, moduleHandles]
  cases h : vendor (.modules family.whole.handle) with
  | error fault =>
    rw [value_memoryFromModules_of_error h]
    rfl
  | ok handles =>
    rw [value_memoryFromModules_of_ok h]
    rfl

/-- A device that the management interface serves has what the modules that it lists give. -/
theorem entries_of_sysman (h : servingSource vendor choice family.whole.handle = .sysman) :
    (memorySizes vendor family choice).value.2 = moduleEntries family.parts.length
      (sizedModules vendor (moduleHandles vendor family.whole.handle)) := by
  obtain ⟨preference, source⟩ := choice
  cases source with
  | core => cases h
  | sysman => exact entries_sysmanEntries
  | unresolved =>
    cases preference with
    | sysman => exact entries_sysmanEntries
    | core => cases h
    | coreWithDdr => cases h
    | auto =>
      unfold servingSource at h
      cases hlist : vendor (.modules family.whole.handle) with
      | error fault =>
        -- A trial in vain leaves the device to the core interface.
        rw [hlist] at h
        cases h
      | ok handles =>
        rw [memorySizes, tryModules, Traced.value_bind, value_memoryFromModules_of_ok hlist,
          moduleHandles, hlist]
        rfl

/-- With the choice that a device settles on the same is found for it again. -/
theorem entries_again (choice : MemoryChoice) :
    (memorySizes vendor family (memorySizes vendor family choice).value.1).value.2 =
      (memorySizes vendor family choice).value.2 := by
  rw [(memorySizes_spec ⟨vendor, family⟩ choice).1, servedBy_eq]
  obtain ⟨preference, source⟩ := choice
  cases source with
  | core => rfl
  | sysman => rfl
  | unresolved =>
    cases preference with
    | sysman => rfl
    | core => rfl
    | coreWithDdr => rfl
    | auto =>
      cases hlist : vendor (.modules family.whole.handle) with
      | error fault =>
        have hcore : servingSource vendor ⟨.auto, .unresolved⟩ family.whole.handle = .core := by
          rw [servingSource, hlist]
        have htry : (tryModules vendor family ⟨.auto, .unresolved⟩).value.2 =
            (coreEntries vendor family ⟨.auto, .core⟩).value.2 := by
          rw [tryModules, Traced.value_bind, value_memoryFromModules_of_error hlist]
          rfl
        rw [hcore]
        exact htry.symm
      | ok handles =>
        have hsysman : servingSource vendor ⟨.auto, .unresolved⟩ family.whole.handle = .sysman := by
          rw [servingSource, hlist]
        rw [hsysman, entries_of_sysman hsysman]
        exact entries_sysmanEntries

end Entries

/-- What the modules of a kind add up to, each in KiB. -/
def totalOf (kind : MemoryKind) (modules : List ModuleDescription) : Nat :=
  ((modules.filter (·.kind = kind)).map fun p ↦ toKiB p.physicalSize).sum

/-- Modules add to what others add up to. -/
theorem totalOf_append (kind : MemoryKind) (first second : List ModuleDescription) :
    totalOf kind (first ++ second) = totalOf kind first + totalOf kind second := by
  rw [totalOf, List.filter_append, List.map_append, List.sum_append, totalOf, totalOf]

/-- A module adds its size if it is of that kind. -/
theorem totalOf_singleton (kind : MemoryKind) (p : ModuleDescription) :
    totalOf kind [p] = if p.kind = kind then toKiB p.physicalSize else 0 := by
  by_cases h : p.kind = kind <;> simp [totalOf, h]

/-- A number, or the greatest 64-bit number if that is less. -/
def clamp (n : Nat) : Nat := min (UInt64.size - 1) n

/-- Stopping before an addition and after it is stopping after it. -/
theorem saturatingAdd_clamp (a b : Nat) : saturatingAdd (clamp a) b = clamp (a + b) := by
  unfold saturatingAdd clamp
  omega

/-- A number is positive exactly if it is where it stops. -/
theorem clamp_pos {n : Nat} : 0 < clamp n ↔ 0 < n := by
  have hsize : 0 < UInt64.size - 1 := by decide
  rw [clamp, Nat.lt_min]
  exact and_iff_right hsize

/-- Within 64 bits a number does not stop. -/
theorem clamp_eq_self {n : Nat} (h : n < UInt64.size) : clamp n = n := by
  unfold clamp
  omega

private theorem add_clamp (hbm ddr : Nat) (p : ModuleDescription) :
    MemoryTotals.add ⟨clamp hbm, clamp ddr⟩ p =
      ⟨clamp (hbm + totalOf .hbm [p]), clamp (ddr + totalOf .ddr [p])⟩ := by
  rw [totalOf_singleton, totalOf_singleton, MemoryTotals.add]
  cases p.kind with
  | hbm => exact congrArg (MemoryTotals.mk · _) (saturatingAdd_clamp _ _)
  | ddr => exact congrArg (MemoryTotals.mk _ ·) (saturatingAdd_clamp _ _)
  | other => rfl

private theorem foldl_add_clamp (hbm ddr : Nat) (modules : List ModuleDescription) :
    modules.foldl MemoryTotals.add ⟨clamp hbm, clamp ddr⟩ =
      ⟨clamp (hbm + totalOf .hbm modules), clamp (ddr + totalOf .ddr modules)⟩ := by
  -- What has been summed up so far is any number, stopped: so each step takes it on as it is.
  induction modules generalizing hbm ddr with
  | nil => rfl
  | cons p modules ih =>
    have hsplit (kind : MemoryKind) :
        totalOf kind (p :: modules) = totalOf kind [p] + totalOf kind modules :=
      totalOf_append kind [p] modules
    rw [List.foldl_cons, add_clamp, ih, hsplit, hsplit, Nat.add_assoc, Nat.add_assoc]

/-- The totals that are noted for some modules: of each kind that there is memory of. -/
def totalNotes (modules : List ModuleDescription) : List Attribute :=
  (if 0 < totalOf .hbm modules then
    [.number "LevelZeroHBMSize" (clamp (totalOf .hbm modules))] else []) ++
  (if 0 < totalOf .ddr modules then
    [.number "LevelZeroDDRSize" (clamp (totalOf .ddr modules))] else [])

private theorem attributes_foldl_add (modules : List ModuleDescription) :
    (modules.foldl MemoryTotals.add {}).attributes = totalNotes modules := by
  have hsum := foldl_add_clamp 0 0 modules
  rw [Nat.zero_add, Nat.zero_add] at hsum
  have hstart : ({} : MemoryTotals) = ⟨clamp 0, clamp 0⟩ := rfl
  rw [hstart, hsum, MemoryTotals.attributes, totalNotes]
  simp only [clamp_pos]

/-- What belongs to the whole device among what modules give are the totals. -/
theorem entriesAt_whole_moduleEntries (parts : Nat) (modules : List ModuleDescription) :
    entriesAt .whole (moduleEntries parts modules) = totalNotes modules := by
  have hparts : entriesAt .whole (modules.filterMap (entryOfModule? parts)) = [] := by
    rw [entriesAt, List.map_eq_nil_iff, List.filter_eq_nil_iff]
    intro e he
    obtain ⟨p, -, hp⟩ := List.mem_filterMap.mp he
    unfold entryOfModule? at hp
    split at hp
    · cases hp
      exact of_decide_eq_false rfl
    · cases hp
  rw [moduleEntries, entriesAt_append, hparts, entriesAt_map, if_pos rfl, attributes_foldl_add,
    List.nil_append]

/-- A call that the management interface serves gives the draft of the whole device one total for
each kind that the listed modules have memory of, HBM before DDR, and nothing else. Every module
counts that can be described, wherever it is, and sums stop at the greatest 64-bit number. -/
theorem sysman_totals_exact {vendor : Answers} {family : DeviceFamily} {choice : MemoryChoice}
    {handles : List ModuleHandle} {root : DraftId} {parts : List DraftId}
    (hserved : (MemoryCall.mk vendor family).servedBy choice = .sysman)
    (hlisted : vendor (.modules family.whole.handle) = .ok handles) (hroot : root ∉ parts)
    (ds : Drafts) :
    let hbm := totalOf .hbm (sizedModules vendor handles)
    let ddr := totalOf .ddr (sizedModules vendor handles)
    (ds.noteEntries root parts (memorySizes vendor family choice).value.2).get? root =
      (ds.get? root).map (·.note (
        (if 0 < hbm then [.number "LevelZeroHBMSize" (min (UInt64.size - 1) hbm)] else []) ++
        (if 0 < ddr then [.number "LevelZeroDDRSize" (min (UInt64.size - 1) ddr)] else []))) := by
  intro hbm ddr
  have hmodules : moduleHandles vendor family.whole.handle = handles := by
    rw [moduleHandles, hlisted]
    rfl
  rw [servedBy_eq] at hserved
  rw [Drafts.get?_noteEntries (Drafts.locate?_eq_whole hroot), entries_of_sysman hserved,
    entriesAt_whole_moduleEntries, hmodules]
  rfl

/-- A vendor that lists seven modules on a device with one subdevice, the first of them twice: one
on no subdevice, one on the subdevice, one on another, one that cannot be described, and two whose
size is up to their state, which only the first of them has. -/
def assortedVendor : Answers
  | .modules ⟨6⟩ => .ok [⟨1⟩, ⟨2⟩, ⟨3⟩, ⟨4⟩, ⟨5⟩, ⟨6⟩, ⟨1⟩]
  | .moduleProperties ⟨1⟩ => .ok ⟨0, false, 0, 0, 5000, 0, 0⟩
  | .moduleProperties ⟨2⟩ => .ok ⟨0, true, 0, 0, 3000, 0, 0⟩
  | .moduleProperties ⟨3⟩ => .ok ⟨0, true, 9, 0, 2048, 0, 0⟩
  | .moduleProperties ⟨5⟩ => .ok ⟨1, true, 0, 0, 0, 0, 0⟩
  | .moduleProperties ⟨6⟩ => .ok ⟨1, false, 0, 0, 0, 0, 0⟩
  | .moduleState ⟨5⟩ => .ok ⟨0, 0, 8192⟩
  | q => .error (.missingEntry q.entryPoint.symbol)

/-- The device with its subdevice. -/
def assortedFamily : DeviceFamily := ⟨⟨⟨6⟩, "ze0"⟩, [⟨⟨8⟩, "ze0.0"⟩], false⟩

/-- All modules but the one that cannot be described count. -/
theorem assorted_totals :
    let handles : List ModuleHandle := [⟨1⟩, ⟨2⟩, ⟨3⟩, ⟨4⟩, ⟨5⟩, ⟨6⟩, ⟨1⟩]
    let choice : MemoryChoice := ⟨.auto, .unresolved⟩
    let ds : Drafts := ⟨[{ sheet := { name := "ze0" } }, { sheet := { name := "ze0.0" } }]⟩
    (MemoryCall.mk assortedVendor assortedFamily).servedBy choice = .sysman ∧
    assortedVendor (.modules assortedFamily.whole.handle) = .ok handles ∧
    (⟨0⟩ : DraftId) ∉ [(⟨1⟩ : DraftId)] ∧
    (ds.noteEntries ⟨0⟩ [⟨1⟩] (memorySizes assortedVendor assortedFamily choice).value.2).get? ⟨0⟩ =
      some { sheet := ⟨"ze0", none,
        [⟨"LevelZeroHBMSize", "12"⟩, ⟨"LevelZeroDDRSize", "8"⟩]⟩ } := by
  intro handles choice ds
  have hserved : (MemoryCall.mk assortedVendor assortedFamily).servedBy choice = .sysman := rfl
  have hroot : (⟨0⟩ : DraftId) ∉ [(⟨1⟩ : DraftId)] := by decide
  exact ⟨hserved, rfl, hroot, sysman_totals_exact hserved rfl hroot ds⟩

end AcceleratorTopology
