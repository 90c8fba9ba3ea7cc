import AcceleratorTopology.Proofs.Device.Contents
import AcceleratorTopology.Proofs.Discovery.Visits
import AcceleratorTopology.Proofs.Topology.Edits
import AcceleratorTopology.Proofs.Topology.Joining

/-!
# How a pass grows a topology

A pass only adds to a topology. Devices and their subdevices follow all that is there, in the
order in which they are reported; what is there may get a link speed and more children, and keeps
all else.
-/

namespace AcceleratorTopology

open Vendor Settings

/-- What the object of a discovered device or subdevice is, whatever it is called. -/
structure Object.IsDiscovered (o : Object) : Prop where
  kind : o.kind = .osDevice
  osDevice : o.osDevice = some .coprocessor
  subtype : o.subtype = some backend
  pci : o.pci = none
  buses : o.buses = none

private theorem Object.IsDiscovered.isAt {o : Object} (h : o.IsDiscovered) (a : Pci.Address) :
    o.isAt a = false := by
  rw [Object.isAt, h.pci]
  rfl

private theorem Object.IsDiscovered.covers {o : Object} (h : o.IsDiscovered) (a : Pci.Address) :
    o.covers a = false := by
  rw [Object.covers, h.buses]
  rfl

private theorem Object.isDiscovered_joined (parent : ObjectId) {s : Sheet}
    (h : s.subtype = some backend) : (Object.joined parent s).IsDiscovered :=
  ⟨rfl, rfl, h, rfl, rfl⟩

private theorem Topology.get?_setLinkSpeed_of_isDiscovered {t : Topology} {j : ObjectId}
    {o : Object} (h : t.get? j = some o) (ho : o.IsDiscovered) (id : ObjectId) (speed : Binary32) :
    (t.setLinkSpeed id speed).get? j = some o := by
  rw [get?_setLinkSpeed, if_neg, h]
  rintro ⟨rfl, hlink⟩
  rw [hasLink, h, Option.any_some, ho.kind] at hlink
  cases hlink

/-- A topology that has become another one by adding some placed devices. The retentions are the
same, and the new identities are those of the devices and their subdevices, in order. An object
that was there keeps all but its link speed, and devices come after the children that it had. A
device is below an object that was there and has its subdevices as children, which have none. -/
structure Grown (t t' : Topology) (placements : List Placement) : Prop where
  retentions : t'.retentions = t.retentions
  ids : t'.ids = t.ids ++ placements.flatMap fun p ↦ p.object :: p.subdevices
  kept : ∀ id o, t.get? id = some o → ∃ speed added,
    added.Sublist (placements.map Placement.object) ∧
    t'.get? id = some { o with
      pci := o.pci.map fun p ↦ { p with linkSpeed := speed }
      children := o.children ++ added }
  device : ∀ p ∈ placements, ∃ o parent, t'.get? p.object = some o ∧ o.IsDiscovered ∧
    o.parent = some parent ∧ parent ∈ t.ids ∧ o.children = p.subdevices
  part : ∀ p ∈ placements, ∀ id ∈ p.subdevices, ∃ o, t'.get? id = some o ∧ o.IsDiscovered ∧
    o.parent = some p.object ∧ o.children = []

namespace Grown

variable {t t' : Topology} {placements : List Placement}

/-- Without devices nothing has changed. -/
theorem refl (t : Topology) : Grown t t [] where
  retentions := rfl
  ids := (List.append_nil _).symm
  kept := by
    intro id o ho
    cases hp : o.pci with
    | none =>
      refine ⟨.zero, [], List.Sublist.refl _, ?_⟩
      rw [ho, Option.map_none, List.append_nil, ← hp]
    | some p =>
      refine ⟨p.linkSpeed, [], List.Sublist.refl _, ?_⟩
      rw [ho, Option.map_some, List.append_nil, ← hp]
  device := by
    intro p hp
    cases hp
  part := by
    intro p hp
    cases hp

private theorem lt_size (h : Grown t t' placements) {id : ObjectId} (hid : id ∈ t.ids) :
    id.index < t'.size := by
  apply Topology.mem_ids.mp
  rw [h.ids]
  exact List.mem_append_left _ hid

private theorem exists_isDiscovered (h : Grown t t' placements) {id : ObjectId}
    (hid : id ∈ placements.flatMap fun p ↦ p.object :: p.subdevices) :
    ∃ o, t'.get? id = some o ∧ o.IsDiscovered := by
  obtain ⟨p, hp, hm⟩ := List.mem_flatMap.mp hid
  cases List.mem_cons.mp hm with
  | inl he =>
    obtain ⟨o, _, ho, hd, _⟩ := h.device p hp
    exact ⟨o, he ▸ ho, hd⟩
  | inr hpart =>
    obtain ⟨o, ho, hd, _⟩ := h.part p hp id hpart
    exact ⟨o, ho, hd⟩

private theorem notMem_ids (h : Grown t t' placements) {id : ObjectId}
    (hid : id ∈ placements.flatMap fun p ↦ p.object :: p.subdevices) : id ∉ t.ids := by
  have hnodup := t'.nodup_ids
  rw [h.ids, List.nodup_append] at hnodup
  exact fun hold ↦ hnodup.2.2 id hold id hid rfl

private theorem place?_mem_ids (h : Grown t t' placements) {a : Pci.Address} {id : ObjectId}
    (hplace : t'.place? a = some id) : id ∈ t.ids := by
  obtain ⟨o, ho, hplaced⟩ := Topology.place?_spec hplace
  have hid : id ∈ t'.ids := Topology.mem_ids.mpr (Topology.lt_size_of_get? ho)
  rw [h.ids, List.mem_append] at hid
  cases hid with
  | inl hold => exact hold
  | inr hnew =>
    obtain ⟨o', ho', hd⟩ := h.exists_isDiscovered hnew
    rw [ho, Option.some.injEq] at ho'
    subst ho'
    rw [hd.isAt, hd.covers] at hplaced
    cases hplaced with
    | inl h => cases h
    | inr h => cases h

/-- A link speed that is set afterwards. -/
theorem setLinkSpeed (h : Grown t t' placements) (id : ObjectId) (speed : Binary32) :
    Grown t (t'.setLinkSpeed id speed) placements := by
  constructor
  case retentions => rw [Topology.retentions_setLinkSpeed, h.retentions]
  case ids => rw [Topology.ids, Topology.size_setLinkSpeed, ← h.ids, Topology.ids]
  case kept =>
    intro j o ho
    obtain ⟨before, added, hadded, hj⟩ := h.kept j o ho
    rw [Topology.get?_setLinkSpeed, hj]
    split
    · exact ⟨speed, added, hadded, by rw [Option.map_some, Option.map_map]; rfl⟩
    · exact ⟨before, added, hadded, rfl⟩
  case device =>
    intro p hp
    obtain ⟨o, parent, ho, hd, hlinks⟩ := h.device p hp
    exact ⟨o, parent, Topology.get?_setLinkSpeed_of_isDiscovered ho hd id speed, hd, hlinks⟩
  case part =>
    intro p hp j hj
    obtain ⟨o, ho, hd, hlinks⟩ := h.part p hp j hj
    exact ⟨o, Topology.get?_setLinkSpeed_of_isDiscovered ho hd id speed, hd, hlinks⟩

private theorem get?_insertDevice (h : Grown t t' placements) {parent : ObjectId}
    (hparent : parent ∈ t.ids) (d : Description) {id : ObjectId}
    (hid : id ∈ placements.flatMap fun p ↦ p.object :: p.subdevices) :
    (t'.insertDevice parent d).1.get? id = t'.get? id := by
  have hne : id ≠ parent := fun he ↦ h.notMem_ids hid (he ▸ hparent)
  obtain ⟨o, ho, _⟩ := h.exists_isDiscovered hid
  rw [Topology.get?_insertDevice_of_lt t' (h.lt_size hparent) d (Topology.lt_size_of_get? ho),
    if_neg hne]

/-- Another device that joins below an object that was there before. -/
theorem insertDevice (h : Grown t t' placements) {parent : ObjectId} (hparent : parent ∈ t.ids)
    {d : Description} (hwhole : d.whole.subtype = some backend)
    (hparts : ∀ s ∈ d.parts, s.subtype = some backend) :
    Grown t (t'.insertDevice parent d).1 (placements ++ [(t'.insertDevice parent d).2]) := by
  have hthere := h.lt_size hparent
  constructor
  case retentions => rw [Topology.retentions_insertDevice, h.retentions]
  case ids =>
    rw [Topology.ids_insertDevice t' hthere, h.ids, List.append_assoc, List.flatMap_append,
      List.flatMap_singleton]
  case kept =>
    intro id o ho
    obtain ⟨speed, added, hadded, hid⟩ := h.kept id o ho
    have hlt := h.lt_size (Topology.mem_ids.mpr (Topology.lt_size_of_get? ho))
    rw [Topology.get?_insertDevice_of_lt t' hthere d hlt, hid, List.map_append]
    by_cases he : id = parent
    · refine ⟨speed, added ++ [t'.nextId], hadded.append (List.Sublist.refl _), ?_⟩
      rw [if_pos he, Option.map_some, Object.adopt, List.append_assoc]
    · refine ⟨speed, added, hadded.trans (List.sublist_append_left _ _), ?_⟩
      rw [if_neg he]
  case device =>
    intro p hp
    cases List.mem_append.mp hp with
    | inl hbefore =>
      obtain ⟨o, above, ho, hrest⟩ := h.device p hbefore
      refine ⟨o, above, ?_, hrest⟩
      rw [h.get?_insertDevice hparent d, ho]
      exact List.mem_flatMap.mpr ⟨p, hbefore, List.mem_cons_self⟩
    | inr hnew =>
      obtain rfl := List.mem_singleton.mp hnew
      have hd := Object.isDiscovered_joined parent hwhole
      exact ⟨_, parent, Topology.get?_insertDevice_object t' hthere d,
        ⟨hd.kind, hd.osDevice, hd.subtype, hd.pci, hd.buses⟩, rfl, hparent, List.nil_append _⟩
  case part =>
    intro p hp id hid
    cases List.mem_append.mp hp with
    | inl hbefore =>
      obtain ⟨o, ho, hrest⟩ := h.part p hbefore id hid
      refine ⟨o, ?_, hrest⟩
      rw [h.get?_insertDevice hparent d, ho]
      exact List.mem_flatMap.mpr ⟨p, hbefore, List.mem_cons_of_mem _ hid⟩
    | inr hnew =>
      obtain rfl := List.mem_singleton.mp hnew
      obtain ⟨s, hs, ho⟩ := Topology.get?_insertDevice_part t' hthere d hid
      exact ⟨_, ho, Object.isDiscovered_joined _ (hparts s hs), rfl, rfl⟩

/-- Another device that is placed, wherever it is located. -/
theorem placeDevice (h : Grown t t' placements) (hroot : 0 < t.size) (vendor : Answers)
    (device : DeviceHandle) {d : Description} (hwhole : d.whole.subtype = some backend)
    (hparts : ∀ s ∈ d.parts, s.subtype = some backend) :
    Grown t (placeDevice vendor t' device d).value.1
      (placements ++ [(placeDevice vendor t' device d).value.2]) := by
  obtain ⟨located, hlocated, hvalue⟩ := value_placeDevice vendor t' device d
  rw [hvalue]
  cases hlocated with
  | root => exact h.insertDevice (Topology.mem_ids.mpr hroot) hwhole hparts
  | found hplace => exact h.insertDevice (h.place?_mem_ids hplace) hwhole hparts
  | measured hplace speed =>
    exact (h.setLinkSpeed _ speed).insertDevice (h.place?_mem_ids hplace) hwhole hparts

/-- A visit to a device places one more. -/
theorem visit {p : Progress} (h : Grown t p.topology placements) (hroot : 0 < t.size)
    (vendor : Answers) (config : Configuration) (switch : SysmanState) (s : Site) :
    ∃ placement,
      (visit vendor config switch p (.device s)).value.placements = p.placements ++ [placement] ∧
      Grown t (AcceleratorTopology.visit vendor config switch p (.device s)).value.topology
        (placements ++ [placement]) := by
  have hsubtype := subtype_describe vendor config switch p.choice
    ⟨p.placements.length, s.driver, s.position, s.device⟩
  rw [value_visit_device]
  exact ⟨_, rfl, h.placeDevice hroot vendor s.device hsubtype.1 hsubtype.2⟩

end Grown

/-- A pass grows a topology by the devices that it reports. -/
theorem grown_runPass (vendor : Answers) (config : Configuration) (switch : SysmanState)
    (choice : MemoryChoice) {t : Topology} (hroot : 0 < t.size) :
    Grown t (runPass vendor config switch choice t).value.topology
      (runPass vendor config switch choice t).value.placements := by
  apply runPass_induction (fun _ p ↦ Grown t p.topology p.placements) (Grown.refl t)
  intro done p s h
  obtain ⟨placement, hplacements, hgrown⟩ := h.visit hroot vendor config switch s
  rw [hplacements]
  exact hgrown

/-- A visit to a device attaches it. -/
theorem attachments_visit (vendor : Answers) (config : Configuration) (switch : SysmanState)
    {p : Progress} (hroot : 0 < p.topology.size) (s : Site) :
    p.topology.Attachments (visit vendor config switch p (.device s)).value.topology := by
  rw [value_visit_device]
  exact Topology.attachments_placeDevice vendor hroot s.device _

/-- A pass attaches devices to a topology, and does nothing else to it. -/
theorem attachments_runPass (vendor : Answers) (config : Configuration) (switch : SysmanState)
    (choice : MemoryChoice) {t : Topology} (hroot : 0 < t.size) :
    t.Attachments (runPass vendor config switch choice t).value.topology := by
  apply runPass_induction (fun _ p ↦ t.Attachments p.topology) .refl
  intro done p s h
  have hthere : 0 < p.topology.size := Nat.lt_of_lt_of_le hroot (Topology.size_le_of_attachments h)
  exact h.trans (attachments_visit vendor config switch hthere s)

/-- A pass keeps a tree. -/
theorem isTree_runPass (vendor : Answers) (config : Configuration) (switch : SysmanState)
    (choice : MemoryChoice) {t : Topology} (ht : t.IsTree) :
    (runPass vendor config switch choice t).value.topology.IsTree :=
  ht.edits (Topology.edits_of_attachments
    (attachments_runPass vendor config switch choice ht.size_pos))

/-- A pass only appends. The topology that it leaves behind is the tree that it started with, grown
by the devices that it reports, and it is a tree again. -/
theorem pass_only_appends (vendor : Answers) (config : Configuration) (switch : SysmanState)
    (choice : MemoryChoice) {t : Topology} (ht : t.IsTree) :
    let pass : Pass := runPass vendor config switch choice t
    Grown t pass.value.topology (pass.report config).devices ∧ pass.value.topology.IsTree :=
  ⟨grown_runPass vendor config switch choice ht.size_pos,
    isTree_runPass vendor config switch choice ht⟩

/-- A machine with one PCI device. -/
def hostWithCard : Topology :=
  Topology.bare.insert Topology.root { kind := .pciDevice, pci := some { address := { bus := 3 } } }

/-- A vendor with one device, which has one subdevice and sits at the address of that card. -/
def cardVendor : Answers
  | .init => .ok ()
  | .drivers => .ok [⟨1⟩]
  | .devices _ => .ok [⟨7⟩]
  | .subdevices _ => .ok [⟨8⟩]
  | .location _ => .ok ⟨{ bus := 3 }, 4, 16, 8000000000⟩
  | q => .error (.missingEntry q.entryPoint.symbol)

/-- The card's device and its subdevice are appended, below the card. -/
theorem card_pass_only_appends :
    hostWithCard.IsTree ∧
    let pass : Pass := runPass cardVendor {} .enabled ⟨.auto, .unresolved⟩ hostWithCard
    (pass.report {}).devices = [⟨⟨2⟩, [⟨3⟩]⟩] ∧
      Grown hostWithCard pass.value.topology (pass.report {}).devices ∧
        pass.value.topology.IsTree := by
  have ht : hostWithCard.IsTree := Topology.isTree_bare.insert (by decide) _
  refine ⟨ht, ?_, pass_only_appends cardVendor {} .enabled _ ht⟩
  rfl

end AcceleratorTopology
