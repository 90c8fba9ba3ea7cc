import AcceleratorTopology.Proofs.Device.Notes
import AcceleratorTopology.Proofs.Discovery.Numbering

/-!
# Notes on discovered devices

On every object that a pass adds the notes about a device are kept apart from its memory sizes, so
that looking up any other key than one of memory sizes gives what was noted about that very device.
-/

namespace AcceleratorTopology

open Vendor Settings

/-- An object carries some notes and some memory sizes, kept apart by their keys. -/
def Topology.KeepsApart (t : Topology) (id : ObjectId) (notes sizes : List Attribute) : Prop :=
  ∃ o, t.get? id = some o ∧ KeptApart o.attributes notes sizes

private theorem Topology.Shows.keepsApart {t : Topology} {id : ObjectId} {s : Sheet}
    {notes sizes : List Attribute} (h : t.Shows id s)
    (hs : KeptApart s.attributes notes sizes) : t.KeepsApart id notes sizes := by
  obtain ⟨o, ho, -, -, hattributes⟩ := h.get?
  exact ⟨o, ho, hattributes ▸ hs⟩

/-- A device that is listed at a site, and placed in a topology with its subdevices: each of their
objects carries the notes about the device that it stands for, kept apart from the memory sizes that
were found for it. -/
structure Noted (vendor : Answers) (t : Topology) (s : Site) (p : Placement)
    (entries : List MemoryEntry) : Prop where
  whole : t.KeepsApart p.object (wholeNotes vendor s.driver s.position s.device)
    (entriesAt .whole entries)
  count : p.subdevices.length = (subdeviceHandles vendor s.device).length
  parts : ∀ (k : Nat) id device, p.subdevices[k]? = some id →
    (subdeviceHandles vendor s.device)[k]? = some device →
    t.KeepsApart id (partNotes vendor k device) (entriesAt (.part k) entries)

/-- A device that shows what was described is noted. -/
theorem Topology.ShowsDevice.noted {vendor : Answers} {config : Configuration}
    {switch : SysmanState} {choice : MemoryChoice} {t : Topology} {n : Nat} {s : Site}
    {p : Placement}
    (h : t.ShowsDevice p (describe vendor config switch choice
      ⟨n, s.driver, s.position, s.device⟩).value.2) :
    Noted vendor t s p
      (memoryEntries vendor config switch choice ⟨n, s.driver, s.position, s.device⟩) := by
  constructor
  case whole => exact h.whole.keepsApart (keptApart_describe_whole vendor config switch choice _)
  case count => rw [h.parts.length_eq, length_describe_parts]
  case parts =>
    intro k id device hk hdevice
    obtain ⟨hlength, hshows⟩ := List.forall₂_iff_get.mp h.parts
    obtain ⟨hlt, rfl⟩ := List.getElem?_eq_some_iff.mp hk
    have hpart := List.getElem?_eq_getElem (hlength ▸ hlt)
    exact (hshows k hlt (hlength ▸ hlt)).keepsApart
      (keptApart_describe_part vendor config switch choice _ hpart hdevice)

/-- On every device and subdevice that a pass reports, whatever the vendor answers: the notes about
it have different keys, no memory size is noted under one of these, and each of them is found with
what was noted about that very device. -/
theorem noted_keys_kept_apart (vendor : Answers) (config : Configuration) (switch : SysmanState)
    (choice : MemoryChoice) (t : Topology) :
    let pass : Pass := runPass vendor config switch choice t
    let devices := (pass.report config).devices
    devices.length = (sites vendor t).length ∧
    ∀ n s p, (sites vendor t)[n]? = some s → devices[n]? = some p →
      ∃ choice, Noted vendor pass.value.topology s p
        (memoryEntries vendor config switch choice ⟨n, s.driver, s.position, s.device⟩) := by
  have hplaced := placed_runPass vendor config switch choice t
  refine ⟨hplaced.length, fun n s p hs hp ↦ ?_⟩
  obtain ⟨choice, hshows⟩ := hplaced.showing n s p hs hp
  exact ⟨choice, hshows.noted⟩

/-- A vendor that calls memories after notes, on a device and on its subdevice. -/
def mimickingVendor : Answers
  | .init => .ok ()
  | .drivers => .ok [⟨1⟩]
  | .devices _ => .ok [⟨6⟩]
  | .subdevices _ => .ok [⟨8⟩]
  | .queueGroups _ => .ok [⟨1, 0, 4⟩]
  | .memories _ => .ok [⟨0, 0, 0, 1024, ""⟩, ⟨0, 0, 0, 2048, "CQGroup0"⟩,
      ⟨0, 0, 0, 4096, "Subdevices"⟩]
  | q => .error (.missingEntry q.entryPoint.symbol)

/-- The names of these memories do no harm to the notes. -/
theorem mimicked_keys_kept_apart :
    let pass : Pass := runPass mimickingVendor {} .enabled ⟨.core, .unresolved⟩ .bare
    let t := pass.value.topology
    (pass.report {}).devices = [⟨⟨1⟩, [⟨2⟩]⟩] ∧
    (t.get? ⟨2⟩).map (·.attributes.map Attribute.key) =
      some ["Backend", "LevelZeroSubdeviceID", "LevelZeroCQGroups", "LevelZeroCQGroup0",
        "LevelZeroMemorySize", "LevelZeroCQGroup0Size", "LevelZeroSubdevicesSize"] ∧
    ∃ choice,
      let entries := memoryEntries mimickingVendor {} .enabled choice ⟨0, 0, 0, ⟨6⟩⟩
      t.KeepsApart ⟨1⟩ (wholeNotes mimickingVendor 0 0 ⟨6⟩) (entriesAt .whole entries) ∧
      t.KeepsApart ⟨2⟩ (partNotes mimickingVendor 0 ⟨8⟩) (entriesAt (.part 0) entries) := by
  intro pass t
  obtain ⟨-, hnoted⟩ :=
    noted_keys_kept_apart mimickingVendor {} .enabled ⟨.core, .unresolved⟩ .bare
  obtain ⟨choice, hdevice⟩ := hnoted 0 ⟨0, 0, ⟨6⟩⟩ ⟨⟨1⟩, [⟨2⟩]⟩ rfl rfl
  exact ⟨rfl, rfl, choice, hdevice.whole, hdevice.parts 0 ⟨2⟩ ⟨8⟩ rfl rfl⟩

end AcceleratorTopology
