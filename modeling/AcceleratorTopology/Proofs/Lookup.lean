import AcceleratorTopology.Proofs.Discovery.Homes
import AcceleratorTopology.Proofs.History

/-!
# Looking up addresses, from first to last

In whatever way a topology came about, an address is looked up as the description of places says,
and the depths that decide among bridges are true distances from the root. Devices that join later
change no answer: a device hangs below what its location stood for before any other device came.
-/

namespace AcceleratorTopology

open Vendor Settings

namespace Topology

/-- Looking up an address finds the first object at it, whatever covers it; without such an object
it finds one of those whose buses cover it that is the most links away from the root, the last one
of these; and else it finds nothing. That is the only thing there is to be found. -/
theorem place_first_at_address_or_last_deepest {t : Topology} (h : Reachable t) (a : Pci.Address) :
    (∀ found, t.place? a = found ↔ t.IsPlace a found) ∧
    ∀ id, id.index < t.size → ∀ links, t.climb? links id = some root ↔ links = t.depth id := by
  constructor
  · intro found
    exact place?_eq_iff
  · intro id hid links
    exact h.isOrderedTree.climb?_eq_root_iff hid links

/-- A machine with a bridge above three others, two of which have the same buses below them while
those of the last one end before they start. Two cards that are below one of them share an
address. -/
def bridgedHost : Topology :=
  let bridge (address : Pci.Address) (buses : Pci.BusRange) : Object :=
    { kind := .bridge, pci := some { address }, buses := some buses }
  let card : Object := { kind := .pciDevice, pci := some { address := { bus := 2 } } }
  let above := bare.insert root (bridge { device := 1 } ⟨0, 1, 9⟩)
  let first := above.insert ⟨1⟩ (bridge { bus := 1, device := 1 } ⟨0, 2, 5⟩)
  let second := first.insert ⟨1⟩ (bridge { bus := 1, device := 2 } ⟨0, 2, 5⟩)
  let inverted := second.insert ⟨1⟩ (bridge { bus := 1, device := 3 } ⟨0, 9, 2⟩)
  (inverted.insert ⟨2⟩ card).insert ⟨2⟩ card

/-- The first of the cards wins over the bridges, the later of the two bridges over the earlier one
and over that above them, which alone covers a bus beyond. -/
theorem bridged_host_places :
    Reachable bridgedHost ∧ bridgedHost.place? { bus := 2 } = some ⟨5⟩ ∧
    bridgedHost.place? { bus := 4 } = some ⟨3⟩ ∧ bridgedHost.place? { bus := 7 } = some ⟨1⟩ ∧
    bridgedHost.place? { bus := 10 } = none ∧
    ∀ a, (∀ found, bridgedHost.place? a = found ↔ bridgedHost.IsPlace a found) ∧
      ∀ id, id.index < bridgedHost.size → ∀ links,
        bridgedHost.climb? links id = some root ↔ links = bridgedHost.depth id := by
  have hreach : Reachable bridgedHost := by
    unfold bridgedHost
    iterate 6 refine Relation.ReflTransGen.tail ?_ (.insert (by decide) _)
    exact .refl
  refine ⟨hreach, ?_, ?_, ?_, ?_, place_first_at_address_or_last_deepest hreach⟩
  · decide +kernel
  · decide +kernel
  · decide +kernel
  · decide +kernel

end Topology

/-- How a pass is set up: for which vendor and with which settings. -/
structure PassSetup where
  vendor : Answers
  config : Configuration
  switch : SysmanState
  choice : MemoryChoice

/-- The pass that is set up. -/
def PassSetup.run (setup : PassSetup) (t : Topology) : Pass :=
  runPass setup.vendor setup.config setup.switch setup.choice t

/-- A topology after some passes, one after another. -/
def Topology.afterPasses (t : Topology) (setups : List PassSetup) : Topology :=
  setups.foldl (fun t setup ↦ (setup.run t).value.topology) t

/-- Passes attach devices, and do nothing else. -/
theorem Topology.attachments_afterPasses (setups : List PassSetup) {t : Topology}
    (hroot : 0 < t.size) : t.Attachments (t.afterPasses setups) := by
  induction setups generalizing t with
  | nil => exact .refl
  | cons setup setups ih =>
    have hfirst : t.Attachments (setup.run t).value.topology :=
      attachments_runPass setup.vendor setup.config setup.switch setup.choice hroot
    exact hfirst.trans (ih (Nat.lt_of_lt_of_le hroot (size_le_of_attachments hfirst)))

/-- What is found for addresses is stable. However many objects for devices join and link speeds are
set, and hence after any number of passes, every address is looked up as before. So a pass that
comes after all that puts every device below the object that its location stood for at the outset,
or below the root, whatever came before it. -/
theorem lookups_stable {t : Topology} (h : t.Reachable) :
    (∀ t', t.Attachments t' → ∀ a, t'.place? a = t.place? a) ∧
    (∀ setups, t.Attachments (t.afterPasses setups) ∧
      ∀ a, (t.afterPasses setups).place? a = t.place? a) ∧
    ∀ t', t.Attachments t' → ∀ setup : PassSetup,
      let pass := setup.run t'
      let devices := (pass.report setup.config).devices
      devices.length = (sites setup.vendor t').length ∧
      ∀ (n : Nat) s p, (sites setup.vendor t')[n]? = some s → devices[n]? = some p →
        pass.value.topology.parent? p.object = some (homeOf setup.vendor t s.device) := by
  have hstable {t' : Topology} (h' : t.Attachments t') : t.SamePlaces t' :=
    Topology.samePlaces_of_attachments h'
  have hroot := h.isOrderedTree.size_pos
  refine ⟨fun t' h' a ↦ (hstable h').place?_eq a, fun setups ↦ ?_, fun t' h' setup ↦ ?_⟩
  · have hpasses := Topology.attachments_afterPasses setups hroot
    exact ⟨hpasses, (hstable hpasses).place?_eq⟩
  · have hroot' := Nat.lt_of_lt_of_le hroot (Topology.size_le_of_attachments h')
    have hhomes := parent?_runPass setup.vendor setup.config setup.switch setup.choice hroot'
    simp only [(hstable h').homeOf_eq] at hhomes
    exact hhomes

/-- A pass over the card's vendor. -/
def cardSetup : PassSetup := ⟨cardVendor, {}, .enabled, ⟨.auto, .unresolved⟩⟩

/-- The device that a second pass finds joins below the card again, next to the first one. -/
theorem card_lookups_stable :
    hostWithCard.Reachable ∧ homeOf cardVendor hostWithCard ⟨7⟩ = ⟨1⟩ ∧
    (hostWithCard.afterPasses [cardSetup, cardSetup]).childLinks ⟨1⟩ = [⟨2⟩, ⟨4⟩] ∧
    (∀ t', hostWithCard.Attachments t' → ∀ a, t'.place? a = hostWithCard.place? a) ∧
    (∀ setups, hostWithCard.Attachments (hostWithCard.afterPasses setups) ∧
      ∀ a, (hostWithCard.afterPasses setups).place? a = hostWithCard.place? a) ∧
    ∀ t', hostWithCard.Attachments t' → ∀ setup : PassSetup,
      let pass := setup.run t'
      let devices := (pass.report setup.config).devices
      devices.length = (sites setup.vendor t').length ∧
      ∀ (n : Nat) s p, (sites setup.vendor t')[n]? = some s → devices[n]? = some p →
        pass.value.topology.parent? p.object =
          some (homeOf setup.vendor hostWithCard s.device) := by
  have hreach : hostWithCard.Reachable := .single (.insert (by decide) _)
  exact ⟨hreach, rfl, rfl, lookups_stable hreach⟩

end AcceleratorTopology
