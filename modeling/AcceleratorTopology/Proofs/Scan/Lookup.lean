import AcceleratorTopology.Proofs.Scan.Buses

/-!
# Looking up addresses after a scan

After a scan of a bare machine an address is found where the scanned directories say: at its own
function if that is listed, otherwise above its bus, at the deepest of the functions of its domain
that lead to that bus.
-/

namespace AcceleratorTopology.Scan

open Files

/-- An object was added for a function in the domain of an address, and the lowest bus below that
function is the bus of the address. -/
def LeadsToBus (view : View) (listing : Path) (names : List Name) (t : Topology) (a : Pci.Address)
    (id : ObjectId) : Prop :=
  ∃ b directory, Lists view listing names b directory ∧ IsNewAt .bare t b id ∧
    b.domain = a.domain ∧ LowestBus view directory a.bus

/-- What is to be found for an address after a scan of the bare machine. -/
inductive ScannedPlace (view : View) (listing : Path) (names : List Name) (t : Topology)
    (a : Pci.Address) : Option ObjectId → Prop
  /-- The function at the address is listed, and one object was added for it. -/
  | listed {directory : Path} {id : ObjectId} (hlists : Lists view listing names a directory)
    (hnew : IsNewAt .bare t a id) (honly : ∀ other, IsNewAt .bare t a other → other = id) :
    ScannedPlace view listing names t a (some id)
  /-- No function at the address is listed, and of those that lead to its bus all others yield to
  this one. -/
  | above {id : ObjectId} (hunlisted : ∀ directory, ¬Lists view listing names a directory)
    (hleads : LeadsToBus view listing names t a id)
    (hbest : ∀ other, LeadsToBus view listing names t a other → t.YieldsTo other id) :
    ScannedPlace view listing names t a (some id)
  /-- No function at the address is listed, and none leads to its bus. -/
  | unknown (hunlisted : ∀ directory, ¬Lists view listing names a directory)
    (hnone : ∀ id, ¬LeadsToBus view listing names t a id) :
    ScannedPlace view listing names t a none

section Scanned

variable {view : View} {listing : Path} {names : List Name} {state : Topology × Added}
  {a : Pci.Address} {id : ObjectId}

/-- There are objects for the functions that are listed, and no others. -/
theorem exists_isNewAt_iff
    (hfilled : Filled view .bare (sortedEntries view listing names) state) :
    (∃ id, IsNewAt .bare state.1 a id) ↔ ∃ directory, Lists view listing names a directory := by
  have hroot := Topology.isTree_bare.size_pos
  constructor
  · rintro ⟨id, hid⟩
    obtain ⟨k, e, hk, rfl, -⟩ := hfilled.exists_entry_of_isNewAt hroot hid
    exact ⟨e.directory, (lists_of_mem_sortedEntries (List.mem_of_getElem? hk)).1⟩
  · rintro ⟨directory, hlists⟩
    obtain ⟨k, hk⟩ := List.mem_iff_getElem?.mp (mem_sortedEntries.mpr hlists)
    exact ⟨_, hfilled.isNewAt hroot hk⟩

private theorem AddressesDiffer.entry_unique (h : AddressesDiffer names) {e f : Entry}
    (he : e ∈ sortedEntries view listing names) (hf : f ∈ sortedEntries view listing names)
    (haddress : e.address = f.address) : e = f := by
  obtain ⟨j, hj⟩ := List.mem_iff_getElem?.mp he
  obtain ⟨k, hk⟩ := List.mem_iff_getElem?.mp hf
  rw [h.index_eq hj hk haddress, hk] at hj
  exact (Option.some.inj hj).symm

private theorem AddressesDiffer.isNewAt_unique (h : AddressesDiffer names)
    (hfilled : Filled view .bare (sortedEntries view listing names) state) {other : ObjectId}
    (hid : IsNewAt .bare state.1 a id) (hother : IsNewAt .bare state.1 a other) : other = id := by
  have hroot := Topology.isTree_bare.size_pos
  obtain ⟨j, e, hj, rfl, rfl⟩ := hfilled.exists_entry_of_isNewAt hroot hid
  obtain ⟨k, f, hk, haddress, rfl⟩ := hfilled.exists_entry_of_isNewAt hroot hother
  rw [h.index_eq hk hj haddress]

private theorem AddressesDiffer.covers_iff (h : AddressesDiffer names)
    (hstate : (sortedEntries view listing names).foldl (addEntry view) (.bare, []) = state) :
    state.1.Covers a id ↔ LeadsToBus view listing names state.1 a id := by
  have hroot := Topology.isTree_bare.size_pos
  have hfilled : Filled view .bare (sortedEntries view listing names) state :=
    hstate ▸ .foldl_addEntry view .bare _
  constructor
  · rintro ⟨r, hbuses, hcovers⟩
    obtain ⟨e, he, hid, bus, hlowest, rfl⟩ := exists_entry_of_buses? hstate hbuses
    obtain ⟨hdomain, rfl⟩ := (covers_iff_of_buses? hbuses a).mp ⟨_, hbuses, hcovers⟩
    exact ⟨_, _, (lists_of_mem_sortedEntries he).1, hid, hdomain.symm, hlowest⟩
  · rintro ⟨b, directory, hlists, hid, hdomain, hlowest⟩
    obtain ⟨k, e, hk, rfl, rfl⟩ := hfilled.exists_entry_of_isNewAt hroot hid
    have he := h.entry_unique (List.mem_of_getElem? hk) (mem_sortedEntries.mpr hlists) rfl
    have hdirectory : e.directory = directory := congrArg Entry.directory he
    have hbuses : state.1.buses? ⟨Topology.bare.size + k⟩ =
        some ⟨e.address.domain, a.bus, a.bus⟩ := by
      rw [hfilled.buses? hroot hk, hdirectory]
      exact busesBelow?_eq_some_iff.mpr ⟨a.bus, hlowest, rfl⟩
    exact (covers_iff_of_buses? hbuses a).mpr ⟨hdomain.symm, rfl⟩

end Scanned

/-- Where no two names in a directory spell the same address, every address is looked up after a
scan of the directory as that says: the object of its own function is found if it is listed, and
else the deepest of those that lead to its bus, the last one of these. How deep an object is says
how many links lead from it up to the root. -/
theorem lookup_after_scan {view : View} {listing : Path} {names : List Name}
    (hlisted : view.list listing = .ok (names.map .ok)) (h : AddressesDiffer names) :
    ∃ t count, scan view listing .bare = .ok (t, count) ∧
      (∀ a, ScannedPlace view listing names t a (t.place? a)) ∧
      ∀ id, id.index < t.size → ∀ links,
        t.climb? links id = some Topology.root ↔ links = t.depth id := by
  obtain ⟨state, hstate, hscan⟩ := exists_scan_eq hlisted .bare
  have hfilled : Filled view .bare (sortedEntries view listing names) state :=
    hstate ▸ .foldl_addEntry view .bare _
  have htree : state.1.IsTree :=
    Topology.isTree_bare.edits (edits_scan Topology.isTree_bare.size_pos hscan)
  refine ⟨_, _, hscan, fun a ↦ ?_, fun id hid ↦ htree.climb?_eq_root_iff hid⟩
  have hunlisted (hnone : ∀ other, ¬state.1.IsAt a other) (directory : Path) :
      ¬Lists view listing names a directory := by
    intro hlists
    obtain ⟨id, hid⟩ := (exists_isNewAt_iff hfilled).mpr ⟨directory, hlists⟩
    exact hnone id hid.2
  -- What is to be found for any topology is translated, case by case.
  have hplace := state.1.isPlace_place? a
  generalize state.1.place? a = found at hplace ⊢
  cases hplace with
  | exact hat _ =>
    have hnew := isNewAt_of_isAt hstate hat
    obtain ⟨directory, hlists⟩ := (exists_isNewAt_iff hfilled).mp ⟨_, hnew⟩
    exact .listed hlists hnew fun other hother ↦ h.isNewAt_unique hfilled hnew hother
  | above hnone hcovers hbest =>
    refine .above (hunlisted hnone) ((h.covers_iff hstate).mp hcovers) fun other hother ↦ ?_
    exact hbest other ((h.covers_iff hstate).mpr hother)
  | unknown hnone huncovered =>
    exact .unknown (hunlisted hnone) fun id hid ↦ huncovered id ((h.covers_iff hstate).mpr hid)

/-- On the host with two bridges the endpoint is found at its address, the lower bridge above its
bus, the upper one above the bus of the lower one, and nothing above any other bus. -/
theorem chained_host_lookups :
    let t := chainedTopology
    chainedHost.view.list [name "devices"] = .ok (chainedNames.map .ok) ∧
    AddressesDiffer chainedNames ∧
    scan chainedHost.view [name "devices"] .bare = .ok (t, 3) ∧
    t.place? ⟨0, 2, 0, 0⟩ = some ⟨3⟩ ∧ t.place? ⟨0, 2, 1, 0⟩ = some ⟨2⟩ ∧
    t.place? ⟨0, 1, 1, 0⟩ = some ⟨1⟩ ∧ t.place? ⟨1, 1, 1, 0⟩ = none ∧
    (∀ a, ScannedPlace chainedHost.view [name "devices"] chainedNames t a (t.place? a)) ∧
    ∀ id, id.index < t.size → ∀ links,
      t.climb? links id = some Topology.root ↔ links = t.depth id := by
  intro t
  have hlisted := wellWired_chainedHost.listed
  have hdiffer : AddressesDiffer chainedNames := by decide
  obtain ⟨t', count, hscan, hplaces, hdepth⟩ := lookup_after_scan hlisted hdiffer
  rw [scan_chainedHost, Except.ok.injEq, Prod.mk.injEq] at hscan
  obtain ⟨rfl, -⟩ := hscan
  refine ⟨hlisted, hdiffer, scan_chainedHost, ?_, ?_, ?_, ?_, hplaces, hdepth⟩
  · decide +kernel
  · decide +kernel
  · decide +kernel
  · decide +kernel

end AcceleratorTopology.Scan
