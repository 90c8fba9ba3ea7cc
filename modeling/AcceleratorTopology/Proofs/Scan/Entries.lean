import AcceleratorTopology.Files.FileTree
import AcceleratorTopology.Scan.Basic
import Mathlib.Data.List.Nodup

/-!
# The entries of a listing

Which functions a directory lists, and in which order they are added. Directories higher up come
first, and where no two functions share an address the order is strict, so it does not matter in
which order they were listed.
-/

namespace AcceleratorTopology.Scan

open Files

/-- No two of some names spell the same address. -/
def AddressesDiffer (names : List Name) : Prop :=
  names.Pairwise fun m n ↦ ∀ a ∈ addressOf? m, a ∉ addressOf? n

instance (names : List Name) : Decidable (AddressesDiffer names) :=
  inferInstanceAs (Decidable (names.Pairwise fun m n ↦ ∀ a ∈ addressOf? m, a ∉ addressOf? n))

/-- One of the names in a listing spells an address and leads to a directory. -/
def Lists (view : View) (listing : Path) (names : List Name) (a : Pci.Address)
    (directory : Path) : Prop :=
  ∃ name ∈ names, addressOf? name = some a ∧ view.resolve (listing ++ [name]) = .ok directory

section Entries

variable {view : View} {listing : Path} {names : List Name} {name : Name} {e : Entry}
  {es : List Entry}

/-- What a name stands for. -/
theorem entryNamed?_eq_some_iff :
    entryNamed? view listing name = some e ↔ addressOf? name = some e.address ∧
      view.resolve (listing ++ [name]) = .ok e.directory ∧
      e.behind = addressAbove? e.directory := by
  obtain ⟨address, directory, behind⟩ := e
  rw [entryNamed?]
  cases addressOf? name with
  | none => simp
  | some a =>
    cases view.resolve (listing ++ [name]) with
    | error fault => simp [Except.toOption]
    | ok found =>
      simp only [Except.toOption, bind, Option.bind_some, pure, Option.some.injEq, Entry.mk.injEq,
        Except.ok.injEq]
      constructor
      · rintro ⟨rfl, rfl, rfl⟩
        exact ⟨rfl, rfl, rfl⟩
      · rintro ⟨rfl, rfl, rfl⟩
        exact ⟨rfl, rfl, rfl⟩

private theorem mapM_id_eq_ok_iff {listed : List (Except FileError Name)} :
    listed.mapM id = .ok names ↔
      (∀ entry ∈ listed, ∃ name, entry = .ok name) ∧ listed.filterMap Except.toOption = names := by
  induction listed generalizing names with
  | nil => simp [pure, Except.pure]
  | cons entry listed ih =>
    rw [List.mapM_cons]
    cases entry with
    | error fault => simp [bind, Except.bind]
    | ok name =>
      cases hrest : listed.mapM id with
      | error fault =>
        constructor
        · intro h
          cases h
        · rintro ⟨hall, -⟩
          have hok := ih.mpr ⟨fun entry he ↦ hall entry (List.mem_cons_of_mem _ he), rfl⟩
          rw [hrest] at hok
          cases hok
      | ok rest =>
        obtain ⟨hall, hnames⟩ := ih.mp hrest
        have hall' : ∀ entry ∈ Except.ok name :: listed, ∃ name, entry = .ok name :=
          List.forall_mem_cons.mpr ⟨⟨name, rfl⟩, hall⟩
        rw [and_iff_right hall', List.filterMap_cons, hnames]
        exact ⟨fun h ↦ Except.ok.inj h, congrArg Except.ok⟩

/-- The entries of a directory that is listed to its end are those that its names stand for. -/
theorem entries_eq_ok_iff :
    entries view listing = .ok es ↔ ∃ listed, view.list listing = .ok listed ∧
      (∀ entry ∈ listed, ∃ name, entry = .ok name) ∧
      (listed.filterMap Except.toOption).filterMap (entryNamed? view listing) = es := by
  rw [entries]
  cases view.list listing with
  | error fault => simp [bind, Except.bind]
  | ok listed =>
    change (listed.mapM id >>= fun names ↦
      Except.ok (names.filterMap (entryNamed? view listing))) = .ok es ↔ _
    simp only [Except.ok.injEq, exists_eq_left']
    cases hnames : listed.mapM id with
    | error fault =>
      constructor
      · intro h
        cases h
      · rintro ⟨hall, -⟩
        rw [mapM_id_eq_ok_iff.mpr ⟨hall, rfl⟩] at hnames
        cases hnames
    | ok names =>
      obtain ⟨hall, hfilter⟩ := mapM_id_eq_ok_iff.mp hnames
      rw [and_iff_right hall, hfilter]
      exact ⟨fun h ↦ Except.ok.inj h, congrArg Except.ok⟩

/-- The names of a directory that is listed to its end. -/
theorem entries_of_names (h : view.list listing = .ok (names.map .ok)) :
    entries view listing = .ok (names.filterMap (entryNamed? view listing)) := by
  refine entries_eq_ok_iff.mpr ⟨_, h, ?_, ?_⟩
  · simp
  · have hsome : Except.toOption ∘ (Except.ok : Name → Except FileError Name) = some := rfl
    rw [List.filterMap_map, hsome, List.filterMap_some]

/-- What is listed stands for an entry. -/
theorem lists_iff {a : Pci.Address} {directory : Path} :
    Lists view listing names a directory ↔
      ⟨a, directory, addressAbove? directory⟩ ∈ names.filterMap (entryNamed? view listing) := by
  simp only [Lists, List.mem_filterMap, entryNamed?_eq_some_iff, and_true]

/-- An entry is listed. -/
theorem lists_of_mem (h : e ∈ names.filterMap (entryNamed? view listing)) :
    Lists view listing names e.address e.directory ∧ e.behind = addressAbove? e.directory := by
  obtain ⟨name, hname, he⟩ := List.mem_filterMap.mp h
  obtain ⟨haddress, hresolve, hbehind⟩ := entryNamed?_eq_some_iff.mp he
  exact ⟨⟨name, hname, haddress, hresolve⟩, hbehind⟩

/-- Names that spell different addresses stand for entries with different addresses. -/
theorem AddressesDiffer.nodup (h : AddressesDiffer names) :
    ((names.filterMap (entryNamed? view listing)).map Entry.address).Nodup := by
  rw [List.Nodup, List.pairwise_map, List.pairwise_filterMap]
  refine h.imp fun {m n} hmn e he f hf heq ↦ ?_
  have hm := (entryNamed?_eq_some_iff.mp he).1
  have hn := (entryNamed?_eq_some_iff.mp hf).1
  exact hmn _ hm (heq ▸ hn)

/-- What a scan finds, and how many addresses it counts. -/
theorem scan_eq_ok_iff {t t' : Topology} {count : Nat} :
    scan view listing t = .ok (t', count) ↔ ∃ es, entries view listing = .ok es ∧
      (addEntries view t es).1 = t' ∧ (addEntries view t es).2.length = count := by
  rw [scan]
  cases entries view listing with
  | error fault => simp
  | ok es => simp

end Entries

namespace Entry

/-- What it means to be added no later. -/
theorem precedes_iff {e f : Entry} :
    e.precedes f = true ↔ e.directory.length < f.directory.length ∨
      e.directory.length = f.directory.length ∧ e.address.rank ≤ f.address.rank := by
  simp [precedes]

/-- Entries can be ordered. -/
theorem precedes_trans (e f g : Entry) (h : e.precedes f = true) (h' : f.precedes g = true) :
    e.precedes g = true := by
  rw [precedes_iff] at h h' ⊢
  omega

/-- Of two entries one is added no later than the other. -/
theorem precedes_total (e f : Entry) : (e.precedes f || f.precedes e) = true := by
  rw [Bool.or_eq_true, precedes_iff, precedes_iff]
  omega

/-- Entries between which the order does not decide share an address. -/
theorem address_eq_of_precedes {e f : Entry} (h : e.precedes f = true)
    (h' : f.precedes e = true) : e.address = f.address := by
  rw [precedes_iff] at h h'
  apply Pci.Address.rank_injective
  omega

end Entry

/-- The entries of a scan in the order in which they are added. -/
theorem pairwise_mergeSort_precedes (es : List Entry) :
    (es.mergeSort Entry.precedes).Pairwise fun e f ↦ e.precedes f = true :=
  List.pairwise_mergeSort Entry.precedes_trans Entry.precedes_total es

/-- Entries with different addresses are added in an order of their own. -/
theorem mergeSort_precedes_congr {es es' : List Entry} (h : es.Perm es')
    (hnodup : (es.map Entry.address).Nodup) :
    es.mergeSort Entry.precedes = es'.mergeSort Entry.precedes := by
  have hperm := es.mergeSort_perm Entry.precedes
  have hperm' := es'.mergeSort_perm Entry.precedes
  refine List.Perm.eq_of_pairwise ?_ (pairwise_mergeSort_precedes es)
    (pairwise_mergeSort_precedes es') ((hperm.trans h).trans hperm'.symm)
  intro e f he hf hef hfe
  have he' : e ∈ es := hperm.mem_iff.mp he
  have hf' : f ∈ es := h.mem_iff.mpr (hperm'.mem_iff.mp hf)
  exact List.inj_on_of_nodup_map hnodup he' hf' (Entry.address_eq_of_precedes hef hfe)

/-- What a scan adds, from the order in which its entries are added. -/
theorem scan_of_sorted {view : View} {listing : Path} {es es' : List Entry} (t : Topology)
    (hes : entries view listing = .ok es) (hsort : es.mergeSort Entry.precedes = es') :
    let added := es'.foldl (addEntry view) (t, [])
    scan view listing t = .ok (added.1, added.2.length) := by
  rw [scan, hes]
  dsimp only
  rw [addEntries, hsort]

/-- A host with a bridge that leads to two buses and has an endpoint behind it, which is listed
first. -/
def nestedHost : FileTree where
  nodes :=
    let bridge := [name "sys", name "0000:00:01.0"]
    let endpoint := bridge ++ [name "0000:01:00.0"]
    [([name "sys"], .directory), (bridge, .directory), (endpoint, .directory),
      (bridge ++ [name "class"], .file (name "0x060400\n")),
      (bridge ++ [name "pci_bus"], .directory),
      (bridge ++ [name "pci_bus", name "0000:02"], .directory),
      (bridge ++ [name "pci_bus", name "0000:01"], .directory),
      ([name "devices"], .directory),
      ([name "devices", name "0000:01:00.0"], .link endpoint),
      ([name "devices", name "0000:00:01.0"], .link bridge)]

/-- The topology of the host with a bridge. -/
def nestedTopology : Topology where
  objects :=
    [{ kind := .machine, children := [⟨1⟩] },
      { kind := .bridge, pci := some { address := ⟨0, 0, 1, 0⟩, classId := bridgeClass },
        buses := some ⟨0, 1, 1⟩, parent := some ⟨0⟩, children := [⟨2⟩] },
      { kind := .pciDevice, pci := some { address := ⟨0, 1, 0, 0⟩ }, parent := some ⟨1⟩ }]

/-- The entries of the host with a bridge, the bridge first. -/
def nestedEntries : List Entry :=
  let bridge := [name "sys", name "0000:00:01.0"]
  [⟨⟨0, 0, 1, 0⟩, bridge, none⟩, ⟨⟨0, 1, 0, 0⟩, bridge ++ [name "0000:01:00.0"], some ⟨0, 0, 1, 0⟩⟩]

/-- A scan of the host with a bridge. -/
theorem scan_nestedHost :
    scan nestedHost.view [name "devices"] .bare = .ok (nestedTopology, 2) := by
  have hlisted : entries nestedHost.view [name "devices"] = .ok nestedEntries.reverse := rfl
  have hsort : nestedEntries.reverse.mergeSort Entry.precedes = nestedEntries := by
    rw [mergeSort_precedes_congr nestedEntries.reverse_perm (by decide)]
    exact List.mergeSort_of_pairwise (by decide)
  exact scan_of_sorted .bare hlisted hsort

end AcceleratorTopology.Scan
