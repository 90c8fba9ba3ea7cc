import AcceleratorTopology.Proofs.Scan.Entries

/-!
# The order of a listing

A system may list a directory in any order. Where no two names in the scanned directory spell the
same address, that order does not matter, nor does the order in which `pci_bus` directories are
listed: the entries are sorted before they are added, and below a bridge the lowest bus counts.
-/

namespace AcceleratorTopology

namespace Files

/-- Two ways to list a directory: it is refused for the same reason, or the same entries come in any
order. -/
inductive ListedAlike : Except FileError (List (Except FileError Name)) →
    Except FileError (List (Except FileError Name)) → Prop
  | refused (fault : FileError) : ListedAlike (.error fault) (.error fault)
  | listed {entries entries' : List (Except FileError Name)} (h : entries.Perm entries') :
    ListedAlike (.ok entries) (.ok entries')

/-- The same is listed either way. -/
theorem ListedAlike.symm {entries entries' : Except FileError (List (Except FileError Name))}
    (h : ListedAlike entries entries') : ListedAlike entries' entries := by
  cases h with
  | refused fault => exact .refused fault
  | listed h => exact .listed h.symm

private theorem ListedAlike.exists_perm {entries : List (Except FileError Name)}
    {other : Except FileError (List (Except FileError Name))}
    (h : ListedAlike (.ok entries) other) :
    ∃ entries', other = .ok entries' ∧ entries.Perm entries' := by
  cases h with
  | listed h => exact ⟨_, rfl, h⟩

/-- Two views of the same files and directories, which may be listed in different orders. -/
structure View.Reordered (view view' : View) : Prop where
  list : ∀ path, ListedAlike (view.list path) (view'.list path)
  resolve : view.resolve = view'.resolve
  read : view.read = view'.read

/-- Each view shows the other one reordered. -/
theorem View.Reordered.symm {view view' : View} (h : view.Reordered view') :
    view'.Reordered view :=
  ⟨fun path ↦ (h.list path).symm, h.resolve.symm, h.read.symm⟩

/-- The view in which directories are listed from their ends. -/
def View.backwards (view : View) : View where
  list path := (view.list path).map List.reverse
  resolve := view.resolve
  read := view.read

/-- What is seen backwards is the same. -/
theorem View.reordered_backwards (view : View) : view.Reordered view.backwards where
  list path := by
    change ListedAlike (view.list path) ((view.list path).map List.reverse)
    cases view.list path with
    | error fault => exact .refused fault
    | ok entries => exact .listed entries.reverse_perm.symm
  resolve := rfl
  read := rfl

end Files

namespace Scan

open Files

private theorem lowerBus_eq_min (a b : UInt32) : lowerBus a b = min a b := by
  rw [lowerBus]
  split
  · next h => exact (Std.LawfulOrderLeftLeaningMin.min_eq_right _ _ (UInt32.not_le.mpr h)).symm
  · next h => exact (Std.LawfulOrderLeftLeaningMin.min_eq_left _ _ (UInt32.not_lt.mp h)).symm

private theorem lowest?_eq_min? (buses : List UInt32) : lowest? buses = buses.min? := by
  cases buses with
  | nil => rfl
  | cons bus buses =>
    rw [lowest?, List.min?_cons', funext fun a ↦ funext (lowerBus_eq_min a)]

/-- Which of some buses is the lowest. -/
theorem lowest?_eq_some_iff {buses : List UInt32} {bus : UInt32} :
    lowest? buses = some bus ↔ bus ∈ buses ∧ ∀ other ∈ buses, bus ≤ other := by
  rw [lowest?_eq_min?, List.min?_eq_some_iff]

private theorem lowest?_congr {buses buses' : List UInt32} (h : buses.Perm buses') :
    lowest? buses = lowest? buses' := by
  ext bus
  rw [lowest?_eq_some_iff, lowest?_eq_some_iff]
  simp only [h.mem_iff]

/-- Names that spell different addresses do so in any order. -/
theorem AddressesDiffer.perm {names names' : List Name} (h : AddressesDiffer names)
    (hperm : names.Perm names') : AddressesDiffer names' := by
  refine (hperm.pairwise_iff fun {m n} hmn a hn hm ↦ ?_).mp h
  exact hmn a hm hn

section Reordered

variable {view view' : View} {listing : Path} {es : List Entry} {t t' : Topology} {count : Nat}

private theorem busesBelow?_of_reordered (h : view.Reordered view') (directory : Path)
    (a : Pci.Address) : busesBelow? view directory a = busesBelow? view' directory a := by
  rw [busesBelow?, busesBelow?]
  generalize hlist : view.list (directory ++ [name "pci_bus"]) = entries
  generalize hlist' : view'.list (directory ++ [name "pci_bus"]) = entries'
  have hsame : ListedAlike entries entries' := hlist ▸ hlist' ▸ h.list _
  cases hsame with
  | refused fault => rfl
  | @listed entries entries' hperm =>
    have hbuses := lowest?_congr (hperm.filterMap fun entry ↦ entry.toOption.bind busOf?)
    exact congrArg (Option.map fun bus ↦ Pci.BusRange.mk a.domain bus bus) hbuses

private theorem object_of_reordered (h : view.Reordered view') (directory : Path)
    (a : Pci.Address) : object view directory a = object view' directory a := by
  have hproperty : property view = property view' := by
    funext directory file
    rw [property, property, h.read]
  rw [object, object, identity, identity, hproperty, busesBelow?_of_reordered h]

private theorem addEntry_of_reordered (h : view.Reordered view') :
    addEntry view = addEntry view' := by
  funext state e
  rw [addEntry, addEntry, object_of_reordered h]

private theorem entries_of_reordered (h : view.Reordered view')
    (hes : entries view listing = .ok es) :
    ∃ es', entries view' listing = .ok es' ∧ es.Perm es' := by
  obtain ⟨listed, hlist, hall, rfl⟩ := entries_eq_ok_iff.mp hes
  obtain ⟨listed', hlist', hperm⟩ := (hlist ▸ h.list listing).exists_perm
  have hnamed : entryNamed? view listing = entryNamed? view' listing := by
    funext name
    rw [entryNamed?, entryNamed?, h.resolve]
  refine ⟨_, entries_eq_ok_iff.mpr ⟨listed', hlist', ?_, rfl⟩, ?_⟩
  · exact fun entry he ↦ hall entry (hperm.mem_iff.mpr he)
  · rw [hnamed]
    exact (hperm.filterMap _).filterMap _

/-- What a scan finds in one order it finds in another. -/
theorem scan_of_reordered (h : view.Reordered view')
    (hdiffer : ∀ listed, view.list listing = .ok listed →
      AddressesDiffer (listed.filterMap Except.toOption))
    (hscan : scan view listing t = .ok (t', count)) : scan view' listing t = .ok (t', count) := by
  obtain ⟨es, hes, htopology, hcount⟩ := scan_eq_ok_iff.mp hscan
  obtain ⟨es', hes', hperm⟩ := entries_of_reordered h hes
  have hnodup : (es.map Entry.address).Nodup := by
    obtain ⟨listed, hlist, -, rfl⟩ := entries_eq_ok_iff.mp hes
    exact (hdiffer listed hlist).nodup
  have hadded : addEntries view t es = addEntries view' t es' := by
    rw [addEntries, addEntries, addEntry_of_reordered h, mergeSort_precedes_congr hperm hnodup]
  rw [hadded] at htopology hcount
  exact scan_eq_ok_iff.mpr ⟨es', hes', htopology, hcount⟩

/-- Where no two names in a directory spell the same address, a scan of it ends with the same
topology and the same count in whichever order the system lists that directory and any other. -/
theorem scan_ignores_listing_order (h : view.Reordered view')
    (hdiffer : ∀ listed, view.list listing = .ok listed →
      AddressesDiffer (listed.filterMap Except.toOption)) (t : Topology)
    (result : Topology × Nat) :
    scan view listing t = .ok result ↔ scan view' listing t = .ok result := by
  refine ⟨scan_of_reordered h hdiffer, scan_of_reordered h.symm fun listed' hlist' ↦ ?_⟩
  obtain ⟨listed, hlist, hperm⟩ := (hlist' ▸ h.symm.list listing).exists_perm
  exact (hdiffer listed hlist).perm (hperm.symm.filterMap _)

end Reordered

/-- The host with a bridge is scanned with its endpoint and the higher bus listed first, and the
other way round. -/
theorem nested_host_listed_backwards :
    let view := nestedHost.view
    let devices := [name "devices"]
    let names := [name "0000:01:00.0", name "0000:00:01.0"]
    view.list devices = .ok (names.map .ok) ∧
    view.backwards.list devices = .ok (names.reverse.map .ok) ∧
    view.Reordered view.backwards ∧ AddressesDiffer names ∧
    scan view devices .bare = .ok (nestedTopology, 2) ∧
    scan view.backwards devices .bare = .ok (nestedTopology, 2) := by
  have hlist : nestedHost.view.list [name "devices"] =
      .ok [.ok (name "0000:01:00.0"), .ok (name "0000:00:01.0")] := rfl
  have hreordered := nestedHost.view.reordered_backwards
  refine ⟨hlist, rfl, hreordered, by decide, scan_nestedHost, ?_⟩
  refine (scan_ignores_listing_order hreordered (fun listed h ↦ ?_) .bare _).mp scan_nestedHost
  rw [hlist] at h
  cases h
  decide

end Scan

end AcceleratorTopology
