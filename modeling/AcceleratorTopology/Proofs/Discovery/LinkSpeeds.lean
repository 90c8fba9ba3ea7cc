import AcceleratorTopology.Proofs.Discovery.Homes
import AcceleratorTopology.Proofs.Discovery.Numbering
import AcceleratorTopology.Proofs.History

/-!
# Link speeds

Devices that join a topology report how fast their links are, and each report replaces the one
before it. So a pass leaves at the link of a PCI device the speed that the last device behind it
reports, and changes nothing else that is known of the PCI functions.
-/

namespace AcceleratorTopology

open Vendor Settings

namespace Topology

/-- The PCI identity of an object that has one. -/
def identity? (t : Topology) (id : ObjectId) : Option PciIdentity := (t.get? id).bind Object.pci

/-- What makes an object one whose link speed can be set. -/
def linkOf? (o : Object) : Option Unit :=
  if o.kind == .pciDevice && o.pci.isSome then some () else none

private theorem hasLink_eq (t : Topology) (id : ObjectId) :
    t.hasLink id = ((t.get? id).bind linkOf?).isSome := by
  rw [hasLink]
  cases t.get? id with
  | none => rfl
  | some o =>
    simp only [Option.any_some, Option.bind_some, linkOf?]
    split <;> simp_all

private theorem hasLink_of_attachments {t t' : Topology} (h : t.Attachments t') (id : ObjectId) :
    t'.hasLink id = t.hasLink id := by
  induction h with
  | refl => rfl
  | tail _ hlast ih =>
    rw [← ih, hasLink_eq, hasLink_eq]
    cases hlast with
    | insertSheet hparent s =>
      rw [bind_get?_insertSheet linkOf? _ hparent rfl fun _ _ ↦ rfl]
    | setLinkSpeed j speed =>
      rw [bind_get?_setLinkSpeed linkOf? _ j speed fun o ↦ by simp [linkOf?]]

private theorem identity?_insertSheets (t : Topology) {parent : ObjectId}
    (h : parent.index < t.size) (sheets : List Sheet) (id : ObjectId) :
    (t.insertSheets parent sheets).identity? id = t.identity? id := by
  induction sheets generalizing t with
  | nil => rfl
  | cons s sheets ih =>
    have hlater : parent.index < (t.insertSheet parent s).size := by
      rw [insertSheet, size_insert]
      omega
    have hfirst : (t.insertSheet parent s).identity? id = t.identity? id :=
      bind_get?_insertSheet Object.pci t h rfl (fun _ _ ↦ rfl) id
    rw [← hfirst]
    exact ih _ hlater

private theorem identity?_insertDevice (t : Topology) {parent : ObjectId}
    (h : parent.index < t.size) (d : Description) (id : ObjectId) :
    (t.insertDevice parent d).1.identity? id = t.identity? id := by
  have hwhole : t.nextId.index < (t.insertSheet parent d.whole).size := by
    rw [insertSheet, size_insert]
    exact Nat.lt_succ_self _
  rw [insertDevice]
  dsimp only
  rw [identity?_insertSheets _ hwhole]
  exact bind_get?_insertSheet Object.pci t h rfl (fun _ _ ↦ rfl) id

/-- The identities once a link speed is set. -/
theorem identity?_setLinkSpeed (t : Topology) (j id : ObjectId) (speed : Binary32) :
    (t.setLinkSpeed j speed).identity? id =
      if j = id ∧ t.hasLink id = true then
        (t.identity? id).map fun p ↦ { p with linkSpeed := speed }
      else t.identity? id := by
  rw [identity?, identity?, get?_setLinkSpeed]
  by_cases hid : j = id
  · subst hid
    split
    · cases t.get? j <;> rfl
    · rfl
  · simp only [hid, false_and, if_false]

end Topology

/-- A device reports the bandwidth of an object's link: its location is known and leads to that
object, and the bandwidth there is positive. -/
def Measures (vendor : Answers) (t : Topology) (id : ObjectId) (device : DeviceHandle)
    (bandwidth : Int64) : Prop :=
  ∃ pci, vendor (.location device) = .ok pci ∧ t.place? pci.address = some id ∧
    0 < pci.maxBandwidth ∧ pci.maxBandwidth = bandwidth

/-- The speed of an object's link after some devices, which was `before` at first: that of the last
device that reports a bandwidth of the link. -/
inductive SpeedAfter (vendor : Answers) (t : Topology) (id : ObjectId) (before : Binary32) :
    List Site → Binary32 → Prop
  | measured {earlier later : List Site} {s : Site} {bandwidth : Int64}
    (h : Measures vendor t id s.device bandwidth)
    (hlast : ∀ s' ∈ later, ∀ b, ¬Measures vendor t id s'.device b) :
    SpeedAfter vendor t id before (earlier ++ s :: later) (linkSpeed bandwidth)
  | unmeasured {sites : List Site} (h : ∀ s ∈ sites, ∀ b, ¬Measures vendor t id s.device b) :
    SpeedAfter vendor t id before sites before

section Measures

variable {vendor : Answers} {t : Topology} {id : ObjectId} {device : DeviceHandle}
  {bandwidth : Int64} {before speed : Binary32} {sites : List Site} {s : Site}

private theorem Topology.SamePlaces.measures_iff {t' : Topology} (h : t.SamePlaces t') :
    Measures vendor t' id device bandwidth ↔ Measures vendor t id device bandwidth := by
  simp only [Measures, h.place?_eq]

/-- Another device that reports a bandwidth has the last word. -/
theorem SpeedAfter.snoc (h : Measures vendor t id s.device bandwidth) :
    SpeedAfter vendor t id before (sites ++ [s]) (linkSpeed bandwidth) :=
  .measured h fun _ hnone ↦ nomatch hnone

/-- Another device that reports no bandwidth changes nothing. -/
theorem SpeedAfter.skip (h : SpeedAfter vendor t id before sites speed)
    (hs : ∀ b, ¬Measures vendor t id s.device b) :
    SpeedAfter vendor t id before (sites ++ [s]) speed := by
  cases h with
  | measured hmeasures hlast =>
    rw [List.append_assoc, List.cons_append]
    refine .measured hmeasures fun s' hs' ↦ ?_
    cases List.mem_append.mp hs' with
    | inl hlater => exact hlast s' hlater
    | inr hnew => exact List.mem_singleton.mp hnew ▸ hs
  | unmeasured hnone =>
    refine .unmeasured fun s' hs' ↦ ?_
    cases List.mem_append.mp hs' with
    | inl hold => exact hnone s' hold
    | inr hnew => exact List.mem_singleton.mp hnew ▸ hs

private theorem locate_of_measures (h : Measures vendor t id device bandwidth) (name : String) :
    (locate vendor t name device).value.1 = t.setLinkSpeed id (linkSpeed bandwidth) := by
  obtain ⟨pci, hpci, hplace, hpos, rfl⟩ := h
  rw [locate, Traced.value_bind, value_ask, hpci]
  simp only [hplace, if_pos hpos, Traced.value_pure]

private theorem locate_of_not_measures (h : ∀ id b, ¬Measures vendor t id device b)
    (name : String) : (locate vendor t name device).value.1 = t := by
  rw [locate, Traced.value_bind, value_ask]
  cases hpci : vendor (.location device) with
  | error fault => rfl
  | ok pci =>
    dsimp only
    cases hplace : t.place? pci.address with
    | none => rfl
    | some id =>
      have hpos : ¬0 < pci.maxBandwidth := fun hpos ↦ h id _ ⟨pci, hpci, hplace, hpos, rfl⟩
      dsimp only
      rw [if_neg hpos, Traced.value_pure]

private theorem identity?_placeDevice (hroot : 0 < t.size) (d : Description) (id : ObjectId) :
    (placeDevice vendor t device d).value.1.identity? id =
      (locate vendor t d.whole.name device).value.1.identity? id := by
  obtain ⟨hhome, hsize⟩ := value_locate vendor t d.whole.name device
  have hthere : (locate vendor t d.whole.name device).value.2.index <
      (locate vendor t d.whole.name device).value.1.size := by
    rw [hhome, hsize]
    exact Topology.mem_ids.mp (homeOf_mem_ids vendor hroot device)
  exact Topology.identity?_insertDevice _ hthere d id

end Measures

section Visit

variable {vendor : Answers} {config : Configuration} {switch : SysmanState} {p : Progress}
  {s : Site}

private theorem identity?_visit (config : Configuration) (switch : SysmanState)
    (hroot : 0 < p.topology.size) (id : ObjectId) :
    ∃ name, (visit vendor config switch p (.device s)).value.topology.identity? id =
      (locate vendor p.topology name s.device).value.1.identity? id := by
  rw [value_visit_device]
  exact ⟨_, identity?_placeDevice hroot _ id⟩

private theorem identity?_visit_of_measures (hroot : 0 < p.topology.size) {id : ObjectId}
    (hlink : p.topology.hasLink id = true) {bandwidth : Int64}
    (h : Measures vendor p.topology id s.device bandwidth) :
    (visit vendor config switch p (.device s)).value.topology.identity? id =
      (p.topology.identity? id).map fun q ↦ { q with linkSpeed := linkSpeed bandwidth } := by
  obtain ⟨name, hname⟩ := identity?_visit config switch hroot id
  rw [hname, locate_of_measures h, Topology.identity?_setLinkSpeed, if_pos ⟨rfl, hlink⟩]

private theorem identity?_visit_of_not_measures (hroot : 0 < p.topology.size) {id : ObjectId}
    (h : p.topology.hasLink id = false ∨ ∀ b, ¬Measures vendor p.topology id s.device b) :
    (visit vendor config switch p (.device s)).value.topology.identity? id =
      p.topology.identity? id := by
  obtain ⟨name, hname⟩ := identity?_visit config switch hroot id
  rw [hname]
  by_cases hany : ∃ j b, Measures vendor p.topology j s.device b
  · obtain ⟨j, b, hmeasures⟩ := hany
    rw [locate_of_measures hmeasures, Topology.identity?_setLinkSpeed, if_neg]
    rintro ⟨rfl, hlink⟩
    cases h with
    | inl hno => simp [hno] at hlink
    | inr hnone => exact hnone b hmeasures
  · rw [locate_of_not_measures]
    intro j b hmeasures
    exact hany ⟨j, b, hmeasures⟩

end Visit

/-- What some devices have made of the identities in a topology: a PCI device has the link speed
that they report, and nothing else has changed. -/
structure Measured (vendor : Answers) (start : Topology) (done : List Site) (t : Topology) :
    Prop where
  attached : start.Attachments t
  linked : ∀ id q, start.hasLink id = true → start.identity? id = some q →
    ∃ speed, SpeedAfter vendor start id q.linkSpeed done speed ∧
      t.identity? id = some { q with linkSpeed := speed }
  others : ∀ id, start.hasLink id = false → t.identity? id = start.identity? id

/-- A visit to a device adds what it reports. -/
theorem Measured.visit {vendor : Answers} {start : Topology} {done : List Site} {p : Progress}
    (h : Measured vendor start done p.topology) (hroot : 0 < start.size) (config : Configuration)
    (switch : SysmanState) (s : Site) :
    Measured vendor start (done ++ [s])
      (visit vendor config switch p (.device s)).value.topology := by
  have hthere : 0 < p.topology.size :=
    Nat.lt_of_lt_of_le hroot (Topology.size_le_of_attachments h.attached)
  have hlinks (id : ObjectId) : p.topology.hasLink id = start.hasLink id :=
    Topology.hasLink_of_attachments h.attached id
  have hmeasures {id : ObjectId} {b : Int64} :
      Measures vendor p.topology id s.device b ↔ Measures vendor start id s.device b :=
    (Topology.samePlaces_of_attachments h.attached).measures_iff
  constructor
  case attached => exact h.attached.trans (attachments_visit vendor config switch hthere s)
  case linked =>
    intro id q hlink hq
    obtain ⟨speed, hspeed, hid⟩ := h.linked id q hlink hq
    by_cases hany : ∃ b, Measures vendor start id s.device b
    · obtain ⟨b, hb⟩ := hany
      refine ⟨linkSpeed b, .snoc hb, ?_⟩
      rw [identity?_visit_of_measures hthere ((hlinks id).trans hlink) (hmeasures.mpr hb), hid]
      rfl
    · have hnone (b : Int64) : ¬Measures vendor start id s.device b := fun hb ↦ hany ⟨b, hb⟩
      refine ⟨speed, hspeed.skip hnone, ?_⟩
      rw [identity?_visit_of_not_measures hthere (.inr fun b hb ↦ hnone b (hmeasures.mp hb)), hid]
  case others =>
    intro id hlink
    rw [identity?_visit_of_not_measures hthere (.inl ((hlinks id).trans hlink)),
      h.others id hlink]

/-- A pass leaves the link speeds that its devices report. -/
theorem measured_runPass (vendor : Answers) (config : Configuration) (switch : SysmanState)
    (choice : MemoryChoice) {t : Topology} (hroot : 0 < t.size) :
    Measured vendor t (sites vendor t) (runPass vendor config switch choice t).value.topology := by
  apply runPass_induction (fun done p ↦ Measured vendor t done p.topology)
  case start =>
    refine ⟨.refl, fun id q _ hq ↦ ⟨q.linkSpeed, .unmeasured ?_, hq⟩, fun _ _ ↦ rfl⟩
    intro s hs
    cases hs
  case step =>
    intro done p s h
    exact h.visit hroot config switch s

/-- The devices that a pass finds, in the order in which it reports them: those that the drivers
list, if the vendor starts and lists its drivers. -/
structure FoundDevices (vendor : Answers) (found : List Site) : Prop where
  mem : ∀ s, s ∈ found ↔ vendor .init = .ok () ∧ ∃ drivers driver devices,
    vendor .drivers = .ok drivers ∧ drivers[s.driver]? = some driver ∧
    vendor (.devices driver) = .ok devices ∧ devices[s.position]? = some s.device
  ordered : found.Pairwise Site.Before

private theorem foundDevices_sites (vendor : Answers) {t : Topology}
    (hkeep : t.retentions.get .osDevice ≠ .keepNone) : FoundDevices vendor (sites vendor t) := by
  refine ⟨fun s ↦ ?_, pairwise_sites vendor t⟩
  rw [mem_sites, opening, if_neg hkeep, Traced.value_bind, value_ask]
  cases vendor .init with
  | error fault => simp [raiseWarning]
  | ok started =>
    rw [Traced.value_bind, value_ask]
    cases vendor .drivers with
    | error fault => simp
    | ok drivers => simp

/-- What becomes of an object while some devices are found. The link of a PCI device has the speed
that these report; any other object keeps all that is known of its PCI function. -/
structure Relinked (vendor : Answers) (t : Topology) (found : List Site) (id : ObjectId)
    (o o' : Object) : Prop where
  kind : o'.kind = o.kind
  device : ∀ p, o.kind = .pciDevice → o.pci = some p →
    ∃ speed, SpeedAfter vendor t id p.linkSpeed found speed ∧
      o'.pci = some { p with linkSpeed := speed }
  other : o.kind ≠ .pciDevice ∨ o.pci = none → o'.pci = o.pci

private theorem Measured.relinked {vendor : Answers} {start t : Topology} {found : List Site}
    (h : Measured vendor start found t) {id : ObjectId} {o o' : Object}
    (ho : start.get? id = some o) (ho' : t.get? id = some o') (hkind : o'.kind = o.kind) :
    Relinked vendor start found id o o' := by
  have hidentity : start.identity? id = o.pci := by rw [Topology.identity?, ho, Option.bind_some]
  have hidentity' : t.identity? id = o'.pci := by rw [Topology.identity?, ho', Option.bind_some]
  constructor
  case kind => exact hkind
  case device =>
    intro p hpci hp
    have hlink : start.hasLink id = true := by simp [Topology.hasLink, ho, hpci, hp]
    rw [← hidentity']
    exact h.linked id p hlink (hidentity.trans hp)
  case other =>
    intro hother
    have hlink : start.hasLink id = false := by
      cases hother with
      | inl hne => simp [Topology.hasLink, ho, hne]
      | inr hnone => simp [Topology.hasLink, ho, hnone]
    rw [← hidentity, ← hidentity', h.others id hlink]

/-- The last device decides. After a pass the link of a PCI device has the speed for the bandwidth
of the last device in the report that has a positive one and whose location leads there, and its
old speed if there is no such device. No other object's PCI data change, and devices that join have
none. A device whose location is not known, or whose bandwidth is not positive, changes nothing
whenever it is found. -/
theorem link_speed_of_last_device {t : Topology} (h : t.Reachable)
    (hkeep : t.retentions.get .osDevice ≠ .keepNone) (vendor : Answers) (config : Configuration)
    (switch : SysmanState) (choice : MemoryChoice) :
    let pass : Pass := runPass vendor config switch choice t
    let devices := (pass.report config).devices
    let final := pass.value.topology
    ∃ found, FoundDevices vendor found ∧ devices.length = found.length ∧
      (∀ (n : Nat) s placement, found[n]? = some s → devices[n]? = some placement →
        Numbered vendor config final n s placement) ∧
      (∀ id o, t.get? id = some o →
        ∃ o', final.get? id = some o' ∧ Relinked vendor t found id o o') ∧
      (∀ id o, t.get? id = none → final.get? id = some o → o.pci = none) ∧
      ∀ (p : Progress) driver numbered, 0 < p.topology.size →
        (∀ pci, vendor (.location numbered.1) = .ok pci → pci.maxBandwidth ≤ 0) →
        (discoverDevice vendor config switch driver p numbered).value.topology.identity? =
          p.topology.identity? := by
  intro pass devices final
  have hroot := h.isOrderedTree.size_pos
  have hmeasured := measured_runPass vendor config switch choice hroot
  have hplaced := placed_runPass vendor config switch choice t
  refine ⟨sites vendor t, foundDevices_sites vendor hkeep, hplaced.length, ?_, ?_, ?_, ?_⟩
  · intro n s placement hs hplacement
    obtain ⟨_, hshows⟩ := hplaced.showing n s placement hs hplacement
    exact hshows.numbered
  · intro id o ho
    obtain ⟨_, _, -, ho'⟩ := (grown_runPass vendor config switch choice hroot).kept id o ho
    exact ⟨_, ho', hmeasured.relinked ho ho' rfl⟩
  · intro id o hnone ho
    have hlink : t.hasLink id = false := by simp [Topology.hasLink, hnone]
    have hidentity := hmeasured.others id hlink
    rwa [Topology.identity?, ho, Topology.identity?, hnone] at hidentity
  · intro p driver numbered hthere hunknown
    funext id
    refine identity?_visit_of_not_measures (s := ⟨driver, numbered.2, numbered.1⟩) hthere (.inr ?_)
    rintro b ⟨pci, hpci, -, hpos, -⟩
    exact absurd hpos (Int64.not_lt.mpr (hunknown pci hpci))

/-- A machine with a bridge and a card behind it that is a bridge itself. -/
def linkedHost : Topology :=
  let bridge : Object :=
    { kind := .bridge, pci := some { address := { device := 1 } }, buses := some ⟨0, 3, 4⟩ }
  let card : Object :=
    { kind := .pciDevice, pci := some { address := { bus := 3 } }, buses := some ⟨0, 5, 5⟩ }
  (Topology.bare.insert Topology.root bridge).insert ⟨1⟩ card

/-- A vendor with six devices. The first one is at the address of the card, the second one behind
it, the third one behind the bridge. Of the others at the card, two report no bandwidth and the last
one does not know where it is. -/
def measuringVendor : Answers
  | .init => .ok ()
  | .drivers => .ok [⟨1⟩]
  | .devices _ => .ok [⟨1⟩, ⟨2⟩, ⟨3⟩, ⟨4⟩, ⟨5⟩, ⟨6⟩]
  | .location ⟨1⟩ => .ok ⟨{ bus := 3 }, 4, 16, 8000000000⟩
  | .location ⟨2⟩ => .ok ⟨{ bus := 5, device := 9 }, 4, 16, 16000000000⟩
  | .location ⟨3⟩ => .ok ⟨{ bus := 4 }, 4, 16, 4000000000⟩
  | .location ⟨4⟩ => .ok ⟨{ bus := 3 }, 4, 16, 0⟩
  | .location ⟨5⟩ => .ok ⟨{ bus := 3 }, 4, 16, -1⟩
  | q => .error (.missingEntry q.entryPoint.symbol)

/-- The second device decides for the card, and none for the bridge. -/
theorem linked_host_speeds :
    let pass : Pass :=
      runPass measuringVendor {} .enabled ⟨.core, .unresolved⟩ linkedHost
    let devices := (pass.report {}).devices
    let final := pass.value.topology
    linkedHost.Reachable ∧ linkedHost.retentions.get .osDevice ≠ .keepNone ∧
    final.identity? ⟨2⟩ = some { address := { bus := 3 }, linkSpeed := linkSpeed 16000000000 } ∧
    final.identity? ⟨1⟩ = some { address := { device := 1 } } ∧
    ∃ found, FoundDevices measuringVendor found ∧ devices.length = found.length ∧
      (∀ (n : Nat) s placement, found[n]? = some s → devices[n]? = some placement →
        Numbered measuringVendor {} final n s placement) ∧
      (∀ id o, linkedHost.get? id = some o →
        ∃ o', final.get? id = some o' ∧ Relinked measuringVendor linkedHost found id o o') ∧
      (∀ id o, linkedHost.get? id = none → final.get? id = some o → o.pci = none) ∧
      ∀ (p : Progress) driver numbered, 0 < p.topology.size →
        (∀ pci, measuringVendor (.location numbered.1) = .ok pci → pci.maxBandwidth ≤ 0) →
        (discoverDevice measuringVendor {} .enabled driver p numbered).value.topology.identity? =
          p.topology.identity? := by
  have hreach : linkedHost.Reachable := by
    refine .tail (.single (.insert ?_ _)) (.insert ?_ _)
    · decide
    · decide
  have hkeep : linkedHost.retentions.get .osDevice ≠ .keepNone := by decide
  refine ⟨hreach, hkeep, ?_, ?_,
    link_speed_of_last_device hreach hkeep measuringVendor {} .enabled _⟩
  · decide +kernel
  · decide +kernel

end AcceleratorTopology
