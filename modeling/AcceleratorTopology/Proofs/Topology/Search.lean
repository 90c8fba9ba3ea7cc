import AcceleratorTopology.Proofs.Topology.Edits
import AcceleratorTopology.Proofs.Topology.Joining
import Mathlib.Data.List.Induction

/-!
# What is found for an address

The place for an address, said without searching for it: the first object at the address, otherwise
the deepest of the objects above its bus, the last one among those equally deep. No more matters for
it than which addresses and buses the objects have and how the links lead up, so a topology that is
changed in other ways gives every address the same place as before.
-/

namespace AcceleratorTopology.Topology

/-- The PCI address of an object that has one. -/
def address? (t : Topology) (id : ObjectId) : Option Pci.Address :=
  (t.get? id).bind fun o ↦ o.pci.map PciIdentity.address

/-- The buses below an object that says which these are. -/
def buses? (t : Topology) (id : ObjectId) : Option Pci.BusRange := (t.get? id).bind Object.buses

/-- An object has an address. -/
def IsAt (t : Topology) (a : Pci.Address) (id : ObjectId) : Prop := t.address? id = some a

/-- An address is in the domain of an object, on one of the buses below it. -/
def Covers (t : Topology) (a : Pci.Address) (id : ObjectId) : Prop :=
  ∃ r, t.buses? id = some r ∧ r.domain = a.domain ∧ r.secondary ≤ a.bus ∧ a.bus ≤ r.subordinate

/-- An object is less deep than another one, or as deep and no later. -/
def YieldsTo (t : Topology) (other id : ObjectId) : Prop :=
  t.depth other < t.depth id ∨ t.depth other = t.depth id ∧ other.index ≤ id.index

/-- What is to be found for an address. -/
inductive IsPlace (t : Topology) (a : Pci.Address) : Option ObjectId → Prop
  /-- An object at the address, the first of these, whatever covers it. -/
  | exact {id : ObjectId} (hat : t.IsAt a id)
    (hfirst : ∀ other, t.IsAt a other → id.index ≤ other.index) : IsPlace t a (some id)
  /-- No object is at the address, and of those that cover it all others yield to this one. -/
  | above {id : ObjectId} (hnone : ∀ other, ¬t.IsAt a other) (hcovers : t.Covers a id)
    (hbest : ∀ other, t.Covers a other → t.YieldsTo other id) : IsPlace t a (some id)
  /-- No object is at the address or covers it. -/
  | unknown (hnone : ∀ other, ¬t.IsAt a other) (huncovered : ∀ other, ¬t.Covers a other) :
    IsPlace t a none

private theorem satisfies_isAt {t : Topology} {a : Pci.Address} {id : ObjectId} :
    t.satisfies (·.isAt a) id = true ↔ t.IsAt a id := by
  simp only [satisfies_iff, Object.isAt, Option.any_eq_true, beq_iff_eq, IsAt, address?,
    Option.bind_eq_some_iff, Option.map_eq_some_iff]

private theorem satisfies_covers {t : Topology} {a : Pci.Address} {id : ObjectId} :
    t.satisfies (·.covers a) id = true ↔ t.Covers a id := by
  simp only [satisfies_iff, Object.covers, Option.any_eq_true, Pci.BusRange.contains,
    Bool.and_eq_true, beq_iff_eq, decide_eq_true_eq, Covers, buses?, Option.bind_eq_some_iff]
  constructor
  · rintro ⟨o, ho, r, hr, ⟨hdomain, hlow⟩, hhigh⟩
    exact ⟨r, ⟨o, ho, hr⟩, hdomain, hlow, hhigh⟩
  · rintro ⟨r, ⟨o, ho, hr⟩, hdomain, hlow, hhigh⟩
    exact ⟨o, ho, r, hr, ⟨hdomain, hlow⟩, hhigh⟩

private theorem mem_ids_of_satisfies {t : Topology} {test : Object → Bool} {id : ObjectId}
    (h : t.satisfies test id = true) : id ∈ t.ids := by
  obtain ⟨o, ho, -⟩ := satisfies_iff.mp h
  exact mem_ids.mpr (lt_size_of_get? ho)

private theorem pairwise_ids (t : Topology) : t.ids.Pairwise fun a b ↦ a.index < b.index := by
  rw [ids, List.pairwise_map]
  exact List.pairwise_lt_range

private theorem yieldsTo_foldl_deeper (t : Topology) (first : ObjectId) (rest : List ObjectId)
    (h : (first :: rest).Pairwise fun a b ↦ a.index < b.index) :
    ∀ other ∈ first :: rest, t.YieldsTo other (rest.foldl t.deeper first) := by
  induction rest using List.reverseRecOn with
  | nil =>
    intro other hother
    rw [List.mem_singleton.mp hother]
    exact Or.inr ⟨rfl, Nat.le_refl _⟩
  | append_singleton rest last ih =>
    rw [← List.cons_append, List.pairwise_append] at h
    obtain ⟨hbefore, -, hlast⟩ := h
    intro other hother
    rw [← List.cons_append, List.mem_append, List.mem_singleton] at hother
    simp only [List.foldl_append, List.foldl_cons, List.foldl_nil, deeper]
    by_cases hdeep : t.depth last < t.depth (rest.foldl t.deeper first)
    · rw [if_pos hdeep]
      cases hother with
      | inl hmem => exact ih hbefore other hmem
      | inr he => exact Or.inl (he ▸ hdeep)
    · rw [if_neg hdeep]
      cases hother with
      | inl hmem =>
        -- The last object is as deep as the best one so far, and later than all before it.
        have hyields := ih hbefore other hmem
        have hlater := hlast other hmem last (List.mem_singleton_self last)
        simp only [YieldsTo] at hyields ⊢
        omega
      | inr he => exact Or.inr ⟨congrArg t.depth he, Nat.le_of_eq (congrArg ObjectId.index he)⟩

private theorem yieldsTo_deepest? {t : Topology} {ids : List ObjectId} {id : ObjectId}
    (h : ids.Pairwise fun a b ↦ a.index < b.index) (hdeepest : t.deepest? ids = some id) :
    ∀ other ∈ ids, t.YieldsTo other id := by
  cases ids with
  | nil => cases hdeepest
  | cons first rest =>
    rw [deepest?, Option.some.injEq] at hdeepest
    rw [← hdeepest]
    exact yieldsTo_foldl_deeper t first rest h

/-- There is a deepest one among some objects unless there are none. -/
theorem deepest?_eq_none {t : Topology} {ids : List ObjectId} (h : t.deepest? ids = none) :
    ids = [] := by
  cases ids with
  | nil => rfl
  | cons first rest => cases h

private theorem index_le_of_find?_ids {t : Topology} {test : ObjectId → Bool} {id other : ObjectId}
    (h : t.ids.find? test = some id) (hother : other ∈ t.ids) (htest : test other = true) :
    id.index ≤ other.index := by
  obtain ⟨-, before, after, hids, hbefore⟩ := List.find?_eq_some_iff_append.mp h
  have hpairwise := t.pairwise_ids
  rw [hids] at hother hpairwise
  cases List.mem_append.mp hother with
  | inl hmem =>
    have hfails := hbefore other hmem
    rw [htest] at hfails
    cases hfails
  | inr hmem =>
    cases List.mem_cons.mp hmem with
    | inl he => exact Nat.le_of_eq (congrArg ObjectId.index he.symm)
    | inr hlater =>
      have hafter := (List.pairwise_cons.mp (List.pairwise_append.mp hpairwise).2.1).1
      exact Nat.le_of_lt (hafter other hlater)

/-- The search finds what is to be found. -/
theorem isPlace_place? (t : Topology) (a : Pci.Address) : t.IsPlace a (t.place? a) := by
  unfold place?
  split
  · next id hfound =>
    apply IsPlace.exact
    · exact satisfies_isAt.mp (List.find?_some hfound)
    · intro other hother
      have htest := satisfies_isAt.mpr hother
      exact index_le_of_find?_ids hfound (mem_ids_of_satisfies htest) htest
  · next hnot =>
    have hnone (other : ObjectId) : ¬t.IsAt a other := by
      intro hother
      have htest := satisfies_isAt.mpr hother
      exact List.find?_eq_none.mp hnot other (mem_ids_of_satisfies htest) htest
    have hmem {other : ObjectId} (hother : t.Covers a other) :
        other ∈ t.ids.filter (t.satisfies (·.covers a)) := by
      have htest := satisfies_covers.mpr hother
      exact List.mem_filter.mpr ⟨mem_ids_of_satisfies htest, htest⟩
    cases hdeepest : t.deepest? (t.ids.filter (t.satisfies (·.covers a))) with
    | none =>
      apply IsPlace.unknown hnone
      intro other hother
      have hother := hmem hother
      rw [deepest?_eq_none hdeepest] at hother
      cases hother
    | some id =>
      apply IsPlace.above hnone
      · exact satisfies_covers.mp (List.mem_filter.mp (mem_of_deepest? hdeepest)).2
      · intro other hother
        exact yieldsTo_deepest? (t.pairwise_ids.filter _) hdeepest other (hmem hother)

/-- There is one thing to be found for an address. -/
theorem IsPlace.unique {t : Topology} {a : Pci.Address} {found found' : Option ObjectId}
    (h : t.IsPlace a found) (h' : t.IsPlace a found') : found = found' := by
  have heq {id id' : ObjectId} (hle : id.index ≤ id'.index) (hge : id'.index ≤ id.index) :
      some id = some id' := by
    cases id
    cases id'
    exact congrArg (some ∘ ObjectId.mk) (Nat.le_antisymm hle hge)
  cases h with
  | exact hat hfirst =>
    cases h' with
    | exact hat' hfirst' => exact heq (hfirst _ hat') (hfirst' _ hat)
    | above hnone' _ _ => exact absurd hat (hnone' _)
    | unknown hnone' _ => exact absurd hat (hnone' _)
  | above hnone hcovers hbest =>
    cases h' with
    | exact hat' _ => exact absurd hat' (hnone _)
    | above _ hcovers' hbest' =>
      have hyields := hbest _ hcovers'
      have hyields' := hbest' _ hcovers
      simp only [YieldsTo] at hyields hyields'
      apply heq
      · omega
      · omega
    | unknown _ huncovered' => exact absurd hcovers (huncovered' _)
  | unknown hnone huncovered =>
    cases h' with
    | exact hat' _ => exact absurd hat' (hnone _)
    | above _ hcovers' _ => exact absurd hcovers' (huncovered _)
    | unknown _ _ => rfl

/-- The search finds just what is to be found. -/
theorem place?_eq_iff {t : Topology} {a : Pci.Address} {found : Option ObjectId} :
    t.place? a = found ↔ t.IsPlace a found := by
  constructor
  · intro h
    rw [← h]
    exact t.isPlace_place? a
  · exact (t.isPlace_place? a).unique

private theorem depth_congr {t t' : Topology} (id : ObjectId)
    (h : ∀ j, j.index ≤ id.index → t'.parent? j = t.parent? j) : t'.depth id = t.depth id := by
  -- Links upwards are followed to earlier objects only.
  induction hn : id.index using Nat.strongRecOn generalizing id with
  | ind n ih =>
    subst hn
    have hparent : (t'.get? id).bind Object.parent = (t.get? id).bind Object.parent :=
      h id (Nat.le_refl _)
    rw [depth, hparent, depth]
    cases (t.get? id).bind Object.parent with
    | none => rfl
    | some parent =>
      by_cases hlt : parent.index < id.index
      · have hdepth : t'.depth parent = t.depth parent :=
          ih parent.index hlt parent (fun j hj ↦ h j (Nat.le_trans hj (Nat.le_of_lt hlt))) rfl
        dsimp only
        rw [if_pos hlt, if_pos hlt, hdepth]
      · dsimp only
        rw [if_neg hlt, if_neg hlt]

/-- A topology has changed in no way that matters for what is found: no object is gone, addresses
and buses are the same, and what was there is still below the same objects. -/
structure SamePlaces (t t' : Topology) : Prop where
  size_le : t.size ≤ t'.size
  address : t'.address? = t.address?
  buses : t'.buses? = t.buses?
  parent : ∀ id, id.index < t.size → t'.parent? id = t.parent? id

namespace SamePlaces

variable {t t' t'' : Topology}

/-- A topology has the same places as itself. -/
theorem refl (t : Topology) : SamePlaces t t := ⟨Nat.le_refl _, rfl, rfl, fun _ _ ↦ rfl⟩

/-- Two changes that do not matter amount to one that does not. -/
theorem trans (h : SamePlaces t t') (h' : SamePlaces t' t'') : SamePlaces t t'' where
  size_le := Nat.le_trans h.size_le h'.size_le
  address := h'.address.trans h.address
  buses := h'.buses.trans h.buses
  parent := fun id hid ↦ (h'.parent id (Nat.lt_of_lt_of_le hid h.size_le)).trans (h.parent id hid)

private theorem depth_eq (h : SamePlaces t t') {a : Pci.Address} {id : ObjectId}
    (hcovers : t.Covers a id) : t'.depth id = t.depth id := by
  have hid := mem_ids.mp (mem_ids_of_satisfies (satisfies_covers.mpr hcovers))
  apply depth_congr
  intro j hj
  exact h.parent j (Nat.lt_of_le_of_lt hj hid)

/-- Every address has the same place as before. -/
theorem place?_eq (h : SamePlaces t t') (a : Pci.Address) : t'.place? a = t.place? a := by
  have hat (id : ObjectId) : t'.IsAt a id ↔ t.IsAt a id := by
    rw [IsAt, IsAt, h.address]
  have hcov (id : ObjectId) : t'.Covers a id ↔ t.Covers a id := by
    rw [Covers, Covers, h.buses]
  -- Neither search is looked at: what was to be found before is still to be found.
  have hplace := t.isPlace_place? a
  generalize t.place? a = found at hplace ⊢
  rw [place?_eq_iff]
  cases hplace with
  | exact hid hfirst =>
    apply IsPlace.exact
    · exact (hat _).mpr hid
    · intro other hother
      exact hfirst other ((hat other).mp hother)
  | above hnone hid hbest =>
    apply IsPlace.above
    · intro other hother
      exact hnone other ((hat other).mp hother)
    · exact (hcov _).mpr hid
    · intro other hother
      have hcovers := (hcov other).mp hother
      have hyields := hbest other hcovers
      rw [YieldsTo, ← h.depth_eq hcovers, ← h.depth_eq hid] at hyields
      exact hyields
  | unknown hnone huncovered =>
    apply IsPlace.unknown
    · intro other hother
      exact hnone other ((hat other).mp hother)
    · intro other hother
      exact huncovered other ((hcov other).mp hother)

end SamePlaces

section Views

variable {β : Type} (view : Object → Option β)

/-- What is seen of the objects is the same once a sheet has joined, if neither links nor the new
object are seen. -/
theorem bind_get?_insertSheet (t : Topology) {parent : ObjectId} (h : parent.index < t.size)
    {s : Sheet} (hnew : view (.joined parent s) = none)
    (hchildren : ∀ o added, view (o.adopt added) = view o) (id : ObjectId) :
    ((t.insertSheet parent s).get? id).bind view = (t.get? id).bind view := by
  rw [insertSheet, get?_insert t parent _ h]
  by_cases hn : id = t.nextId
  · have hnone : t.get? id = none := get?_eq_none (Nat.le_of_eq (congrArg ObjectId.index hn.symm))
    rw [if_pos hn, hnone]
    exact hnew
  · rw [if_neg hn]
    by_cases hp : id = parent
    · rw [if_pos hp, Option.bind_map]
      exact congrArg (Option.bind (t.get? id)) (funext fun o ↦ hchildren o _)
    · rw [if_neg hp]

/-- What is seen of the objects is the same once a link speed is set, if speeds are not seen. -/
theorem bind_get?_setLinkSpeed (t : Topology) (id : ObjectId) (speed : Binary32)
    (hspeed : ∀ o : Object,
      view { o with pci := o.pci.map fun p ↦ { p with linkSpeed := speed } } = view o)
    (j : ObjectId) : ((t.setLinkSpeed id speed).get? j).bind view = (t.get? j).bind view := by
  rw [get?_setLinkSpeed]
  split
  · rw [Option.bind_map]
    exact congrArg (Option.bind (t.get? j)) (funext hspeed)
  · rfl

end Views

private theorem samePlaces_insertSheet (t : Topology) {parent : ObjectId}
    (h : parent.index < t.size) (s : Sheet) : SamePlaces t (t.insertSheet parent s) where
  size_le := by
    rw [insertSheet, size_insert]
    exact Nat.le_succ _
  address := funext (bind_get?_insertSheet _ t h rfl fun _ _ ↦ rfl)
  buses := funext (bind_get?_insertSheet _ t h rfl fun _ _ ↦ rfl)
  parent := by
    intro id hid
    rw [insertSheet, parent?_insert t id _ h, if_neg (ne_nextId hid)]

private theorem map_address_setLinkSpeed (o : Object) (speed : Binary32) :
    (o.pci.map fun p ↦ { p with linkSpeed := speed }).map PciIdentity.address =
      o.pci.map PciIdentity.address := by
  rw [Option.map_map]
  rfl

private theorem samePlaces_setLinkSpeed (t : Topology) (id : ObjectId) (speed : Binary32) :
    SamePlaces t (t.setLinkSpeed id speed) where
  size_le := Nat.le_of_eq (size_setLinkSpeed t id speed).symm
  address := funext (bind_get?_setLinkSpeed _ t id speed fun o ↦ map_address_setLinkSpeed o speed)
  buses := funext (bind_get?_setLinkSpeed _ t id speed fun _ ↦ rfl)
  parent := fun j _ ↦ bind_get?_setLinkSpeed _ t id speed (fun _ ↦ rfl) j

/-- An attachment leaves the places as they are. -/
theorem Attachment.samePlaces {t t' : Topology} (h : Attachment t t') : SamePlaces t t' := by
  cases h with
  | insertSheet h s => exact samePlaces_insertSheet t h s
  | setLinkSpeed id speed => exact samePlaces_setLinkSpeed t id speed

/-- Attachments leave the places as they are. -/
theorem samePlaces_of_attachments {t t' : Topology} (h : Attachments t t') : SamePlaces t t' := by
  induction h with
  | refl => exact SamePlaces.refl t
  | tail _ hlast ih => exact ih.trans hlast.samePlaces

end AcceleratorTopology.Topology
