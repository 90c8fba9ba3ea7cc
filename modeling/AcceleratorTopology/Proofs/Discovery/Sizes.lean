import AcceleratorTopology.Proofs.Device.PartSizes
import AcceleratorTopology.Proofs.Discovery.Numbering

/-!
# Memory sizes of discovered devices

All devices of a pass show what is described with the choice of source that the pass ends with. If
that is the management interface, a subdevice tells the size of the first of its modules of a kind,
and a device the sum over all modules of the kind.
-/

namespace AcceleratorTopology

open Vendor Settings

section Choice

variable (vendor : Answers) (config : Configuration) (switch : SysmanState)

private theorem describe_again (choice : MemoryChoice) (listing : Listing) :
    (describe vendor config switch (describe vendor config switch choice listing).value.1
        listing).value.2 =
      (describe vendor config switch choice listing).value.2 :=
  congrArg (surveyDevice vendor config switch listing).value.description.noteMemory
    (entries_again choice)

private theorem source_describe_ne_unresolved (choice : MemoryChoice) (listing : Listing) :
    (describe vendor config switch choice listing).value.1.source ≠ .unresolved := by
  let call : MemoryCall := ⟨vendor, (surveyDevice vendor config switch listing).value.family⟩
  have hchoice : (describe vendor config switch choice listing).value.1 =
      { choice with source := call.servedBy choice } := (memorySizes_spec call choice).1
  rw [hchoice]
  exact call.servedBy_ne_unresolved choice

private theorem choice_describe_of_settled {choice : MemoryChoice} (h : choice.source ≠ .unresolved)
    (listing : Listing) : (describe vendor config switch choice listing).value.1 = choice := by
  rw [MemoryChoice.IsFixed.value_describe (.inl h)]
  obtain ⟨preference, source⟩ := choice
  cases source with
  | unresolved => exact absurd rfl h
  | core => rfl
  | sysman => rfl

private theorem showsDevice_final_choice (choice : MemoryChoice) (t : Topology) :
    let final := (runPass vendor config switch choice t).value
    final.placements.length = (sites vendor t).length ∧
      ∀ n s placement, (sites vendor t)[n]? = some s → final.placements[n]? = some placement →
        final.choice.source ≠ .unresolved ∧
        final.topology.ShowsDevice placement (describe vendor config switch final.choice
          ⟨n, s.driver, s.position, s.device⟩).value.2 := by
  -- A later visit keeps what was described, as the choice is settled and does not change any more.
  apply runPass_stages (fun _ ↦ True) fun p n s placement ↦
    p.choice.source ≠ .unresolved ∧ p.topology.ShowsDevice placement
      (describe vendor config switch p.choice ⟨n, s.driver, s.position, s.device⟩).value.2
  case start => trivial
  case step => exact fun _ _ _ ↦ trivial
  case placed =>
    intro p s placement _ hplacements
    rw [value_visit_device] at hplacements ⊢
    cases List.append_cancel_left hplacements
    refine ⟨source_describe_ne_unresolved vendor config switch _ _, ?_⟩
    rw [describe_again]
    exact showsDevice_placeDevice vendor p.topology s.device _
  case kept =>
    rintro p s - n s' placement ⟨hsettled, hshows⟩
    have hkept := choice_describe_of_settled vendor config switch hsettled
      ⟨p.placements.length, s.driver, s.position, s.device⟩
    rw [value_visit_device]
    dsimp only
    rw [hkept]
    exact ⟨hsettled, hshows.mono ⟨_, (sheets_placeDevice vendor p.topology s.device _).symm⟩⟩

end Choice

/-- What a look-up of a key on an object finds: a number in decimal, or nothing. -/
def Topology.Reads (t : Topology) (id : ObjectId) (key : String) (n : Option Nat) : Prop :=
  ∃ o, t.get? id = some o ∧ Attribute.lookup? o.attributes key = n.map toString

/-- All that is noted under a key on an object: some numbers in decimal. -/
def Topology.Notes (t : Topology) (id : ObjectId) (key : String) (ns : List Nat) : Prop :=
  ∃ o, t.get? id = some o ∧ Attribute.valuesUnder o.attributes key = ns.map toString

private theorem Topology.Notes.reads {t : Topology} {id : ObjectId} {key : String} {ns : List Nat}
    (h : t.Notes id key ns) : t.Reads id key ns.head? := by
  obtain ⟨o, ho, hvalues⟩ := h
  refine ⟨o, ho, ?_⟩
  rw [Attribute.lookup?_eq_head?, hvalues, List.head?_map]

/-- What there is to read of some sizes if all of them are read as their sum. -/
def summed (sizes : List Nat) : Option Nat := if sizes = [] then none else some sizes.sum

private theorem head?_eq_summed {sizes : List Nat} (h : sizes.length ≤ 1) :
    sizes.head? = summed sizes := by
  match sizes, h with
  | [], _ => rfl
  | [size], _ => rfl

/-- A device that is placed in a topology with its subdevices shows the sizes of some modules. Each
module notes its size on the subdevice that it is on, and the first of these notes is read. Where
every module is on one of the subdevices, what is noted there adds up to what is read on the device.
-/
structure ShowsModules (t : Topology) (p : Placement) (modules : List ModuleDescription) :
    Prop where
  noted : ∀ k id kind, p.subdevices[k]? = some id →
    t.Notes id kind.sizeKey (sizesOn kind k modules)
  first : ∀ k id kind, p.subdevices[k]? = some id →
    t.Reads id kind.sizeKey (sizesOn kind k modules).head?
  single : ∀ k id kind, p.subdevices[k]? = some id → (sizesOn kind k modules).length ≤ 1 →
    t.Reads id kind.sizeKey (summed (sizesOn kind k modules))
  totals : (∀ module ∈ modules, ∃ k < p.subdevices.length, module.IsOn k) →
    ∀ kind, kind ≠ .other →
      let total := ∑ k ∈ Finset.range p.subdevices.length, (sizesOn kind k modules).sum
      total < UInt64.size →
        t.Reads p.object kind.sizeKey (if total = 0 then none else some total)

/-- A device that the management interface serves shows the sizes of its modules. -/
theorem Topology.ShowsDevice.showsModules {vendor : Answers} {config : Configuration}
    {switch : SysmanState} {choice : MemoryChoice} {t : Topology} {listing : Listing}
    {p : Placement} (hserved : servingSource vendor choice listing.device = .sysman)
    (h : t.ShowsDevice p (describe vendor config switch choice listing).value.2) :
    ShowsModules t p (sizedModules vendor (moduleHandles vendor listing.device)) := by
  have hnoted (k : Nat) (id : ObjectId) (kind : MemoryKind) (hid : p.subdevices[k]? = some id) :
      t.Notes id kind.sizeKey
        (sizesOn kind k (sizedModules vendor (moduleHandles vendor listing.device))) := by
    obtain ⟨hlt, rfl⟩ := List.getElem?_eq_some_iff.mp hid
    obtain ⟨hlength, hshows⟩ := List.forall₂_iff_get.mp h.parts
    obtain ⟨o, ho, -, -, hattributes⟩ := (hshows k hlt (hlength ▸ hlt)).get?
    have hpart := List.getElem?_eq_getElem (hlength ▸ hlt)
    refine ⟨o, ho, ?_⟩
    rw [hattributes]
    exact valuesUnder_describe_part hserved hpart kind
  constructor
  case noted => exact hnoted
  case first => exact fun k id kind hid ↦ (hnoted k id kind hid).reads
  case single => exact fun k id kind hid hone ↦ head?_eq_summed hone ▸ (hnoted k id kind hid).reads
  case totals =>
    intro hplaced kind hkind total htotal
    have hsum : total = totalOf kind _ := sum_sizesOn hplaced kind
    obtain ⟨o, ho, -, -, hattributes⟩ := h.whole.get?
    refine ⟨o, ho, ?_⟩
    rw [hattributes, lookup?_describe_whole hserved hkind, ← hsum, clamp_eq_self htotal]
    by_cases hzero : total = 0
    · rw [if_pos hzero, hzero]
      rfl
    · rw [if_neg hzero, if_pos (Nat.pos_of_ne_zero hzero)]
      rfl

/-- If the source of a pass is the management interface, every device that the pass reports shows,
on itself and on an object for each of its subdevices, the sizes of the modules that the vendor
lists for it. -/
theorem module_sizes_read {vendor : Answers} {config : Configuration} {switch : SysmanState}
    {choice : MemoryChoice} {t : Topology}
    (hsource : (runPass vendor config switch choice t).value.choice.source = .sysman) :
    let pass : Pass := runPass vendor config switch choice t
    List.Forall₂ (fun s p ↦
        p.subdevices.length = (subdeviceHandles vendor s.device).length ∧
        ShowsModules pass.value.topology p (sizedModules vendor (moduleHandles vendor s.device)))
      (sites vendor t) (pass.report config).devices := by
  intro pass
  obtain ⟨hlength, hshows⟩ := showsDevice_final_choice vendor config switch choice t
  refine List.forall₂_iff_get.mpr ⟨hlength.symm, fun n hs hp ↦ ?_⟩
  obtain ⟨hsettled, hdevice⟩ := hshows n _ _ (List.getElem?_eq_getElem hs)
    (List.getElem?_eq_getElem hp)
  refine ⟨?_, hdevice.showsModules ?_⟩
  · exact hdevice.parts.length_eq.trans (length_describe_parts _ _ _ _ _)
  · rw [servingSource_of_settled vendor hsettled, hsource]

/-- A vendor with one device that has two subdevices, with two HBM modules on the first and a DDR
module on the second. -/
def stackedVendor : Answers
  | .init => .ok ()
  | .drivers => .ok [⟨1⟩]
  | .devices _ => .ok [⟨6⟩]
  | .subdevices ⟨6⟩ => .ok [⟨8⟩, ⟨9⟩]
  | .modules _ => .ok [⟨1⟩, ⟨2⟩, ⟨3⟩]
  | .moduleProperties ⟨1⟩ => .ok ⟨0, true, 0, 0, 1024, 0, 0⟩
  | .moduleProperties ⟨2⟩ => .ok ⟨0, true, 0, 0, 2048, 0, 0⟩
  | .moduleProperties ⟨3⟩ => .ok ⟨1, true, 1, 0, 4096, 0, 0⟩
  | q => .error (.missingEntry q.entryPoint.symbol)

/-- Both HBM modules note their sizes on the first subdevice, the DDR module is read on the second,
and on the device the HBM modules add up. -/
theorem stacked_sizes_read :
    let pass : Pass := runPass stackedVendor {} .enabled ⟨.auto, .unresolved⟩ .bare
    let t := pass.value.topology
    pass.value.choice.source = .sysman ∧ (pass.report {}).devices = [⟨⟨1⟩, [⟨2⟩, ⟨3⟩]⟩] ∧
    t.Notes ⟨2⟩ "LevelZeroHBMSize" [1, 2] ∧ t.Reads ⟨3⟩ "LevelZeroDDRSize" (some 4) ∧
    t.Reads ⟨1⟩ "LevelZeroHBMSize" (some 3) := by
  intro pass t
  have hsource : pass.value.choice.source = .sysman := rfl
  have hdevices : List.Forall₂ (fun (s : Site) (p : Placement) ↦
        p.subdevices.length = (subdeviceHandles stackedVendor s.device).length ∧
        ShowsModules t p (sizedModules stackedVendor (moduleHandles stackedVendor s.device)))
      [⟨0, 0, ⟨6⟩⟩] [⟨⟨1⟩, [⟨2⟩, ⟨3⟩]⟩] := module_sizes_read hsource
  obtain ⟨⟨-, hshows⟩, -⟩ := List.forall₂_cons.mp hdevices
  refine ⟨hsource, rfl, hshows.noted 0 ⟨2⟩ .hbm rfl, ?_, ?_⟩
  · exact hshows.single 1 ⟨3⟩ .ddr rfl (by decide)
  · exact hshows.totals (by decide) .hbm (by decide) (by decide)

/-- A look-up on the first subdevice does not find the sum of the sizes that are noted there, nor do
look-ups on the subdevices add up to what is found on the device. -/
theorem stacked_sizes_unsummed :
    let pass : Pass := runPass stackedVendor {} .enabled ⟨.auto, .unresolved⟩ .bare
    let t := pass.value.topology
    let modules := sizedModules stackedVendor (moduleHandles stackedVendor ⟨6⟩)
    pass.value.choice.source = .sysman ∧ (pass.report {}).devices = [⟨⟨1⟩, [⟨2⟩, ⟨3⟩]⟩] ∧
    (∀ module ∈ modules, ∃ k < 2, module.IsOn k) ∧ sizesOn .hbm 0 modules = [1, 2] ∧
    ¬t.Reads ⟨2⟩ "LevelZeroHBMSize" (summed [1, 2]) ∧
    t.Reads ⟨2⟩ "LevelZeroHBMSize" (some 1) ∧ t.Reads ⟨3⟩ "LevelZeroHBMSize" none ∧
    t.Reads ⟨1⟩ "LevelZeroHBMSize" (some 3) := by
  refine ⟨rfl, rfl, by decide, by decide, ?_, ⟨_, rfl, rfl⟩, ⟨_, rfl, rfl⟩, ⟨_, rfl, rfl⟩⟩
  rintro ⟨o, ho, hread⟩
  cases ho
  exact absurd hread (by decide)

end AcceleratorTopology
