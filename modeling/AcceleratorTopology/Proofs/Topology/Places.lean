import AcceleratorTopology.Topology.Placement

/-!
# The places that are found

What is known of the object below which a device is put: it is there, and it is the root or an
object with a PCI address or a range of buses.
-/

namespace AcceleratorTopology

open Vendor

namespace Topology

/-- The identities of a topology are those of its objects. -/
theorem mem_ids {t : Topology} {id : ObjectId} : id ∈ t.ids ↔ id.index < t.size := by
  obtain ⟨i⟩ := id
  simp [ids]

/-- What passes a test is an object. -/
theorem satisfies_iff {t : Topology} {test : Object → Bool} {id : ObjectId} :
    t.satisfies test id = true ↔ ∃ o, t.get? id = some o ∧ test o = true := by
  rw [satisfies, Option.any_eq_true]

private theorem deeper_eq_or (t : Topology) (best id : ObjectId) :
    t.deeper best id = best ∨ t.deeper best id = id := by
  unfold deeper
  split
  · exact Or.inl rfl
  · exact Or.inr rfl

/-- The deepest of some objects is one of them. -/
theorem mem_of_deepest? {t : Topology} {ids : List ObjectId} {id : ObjectId}
    (h : t.deepest? ids = some id) : id ∈ ids := by
  cases ids with
  | nil => cases h
  | cons first rest =>
    rw [deepest?, Option.some.injEq] at h
    subst h
    refine List.foldlRecOn (motive := (· ∈ first :: rest)) rest _ List.mem_cons_self ?_
    intro best hbest next hnext
    cases t.deeper_eq_or best next with
    | inl h => rw [h]; exact hbest
    | inr h => rw [h]; exact List.mem_cons_of_mem first hnext

/-- A place that is found is an object at the address or one that covers it. -/
theorem place?_spec {t : Topology} {a : Pci.Address} {id : ObjectId} (h : t.place? a = some id) :
    ∃ o, t.get? id = some o ∧ (o.isAt a = true ∨ o.covers a = true) := by
  unfold place? at h
  split at h
  · next found hfound =>
    cases h
    obtain ⟨o, ho, hat⟩ := satisfies_iff.mp (List.find?_some hfound)
    exact ⟨o, ho, Or.inl hat⟩
  · have hmem := (List.mem_filter.mp (mem_of_deepest? h)).2
    obtain ⟨o, ho, hcovers⟩ := satisfies_iff.mp hmem
    exact ⟨o, ho, Or.inr hcovers⟩

end Topology

/-- A device is put below the root of a topology that is left alone, or below an object that was
found for its address and whose link speed may have been set. -/
inductive Located (t : Topology) : Topology × ObjectId → Prop
  | root : Located t (t, Topology.root)
  | found {a : Pci.Address} {id : ObjectId} (h : t.place? a = some id) : Located t (t, id)
  | measured {a : Pci.Address} {id : ObjectId} (h : t.place? a = some id) (speed : Binary32) :
    Located t (t.setLinkSpeed id speed, id)

private theorem located_locate (vendor : Answers) (t : Topology) (name : String)
    (device : DeviceHandle) : Located t (locate vendor t name device).value := by
  rw [locate, Traced.value_bind, value_ask]
  cases vendor (.location device) with
  | error fault => exact .root
  | ok pci =>
    dsimp only
    split
    · exact .root
    · next id h =>
      split
      · exact .measured h _
      · exact .found h

/-- A device is placed by joining where it is located. -/
theorem value_placeDevice (vendor : Answers) (t : Topology) (device : DeviceHandle)
    (d : Description) :
    ∃ located, Located t located ∧
      (placeDevice vendor t device d).value = located.1.insertDevice located.2 d :=
  ⟨_, located_locate vendor t d.whole.name device, rfl⟩

end AcceleratorTopology
