import AcceleratorTopology.Proofs.Scan.Nesting
import AcceleratorTopology.Proofs.Scan.Order

/-!
# Buses below scanned functions

The buses below an object are known from the `pci_bus` directory of its function alone: they are the
one bus that is the lowest named there. So they cover the objects directly below it, if the names
are those of the bus that these are on. What is further below is on other buses and is not covered:
it has its own bridge between.
-/

namespace AcceleratorTopology

namespace Files.FileTree

private theorem isDirectory_of_isAbove {tree : FileTree} {outer inner : Path}
    (h : Scan.IsAbove outer inner) (hreal : tree.IsReal inner) : tree.IsDirectory outer := by
  obtain ⟨⟨rest, rfl⟩, hne⟩ := h
  refine ⟨hreal.of_append, ?_⟩
  cases rest with
  | nil => exact absurd (List.append_nil outer).symm hne
  | cons name rest => exact hreal.directory_of_append

end Files.FileTree

namespace Scan

open Files

/-- The `pci_bus` directory of a function has an entry that names a bus. -/
def NamesBus (view : View) (directory : Path) (bus : UInt32) : Prop :=
  ∃ entries entry, view.list (directory ++ [name "pci_bus"]) = .ok entries ∧ .ok entry ∈ entries ∧
    busOf? entry = some bus

/-- A bus is the lowest that the `pci_bus` directory of a function names. -/
def LowestBus (view : View) (directory : Path) (bus : UInt32) : Prop :=
  NamesBus view directory bus ∧ ∀ other, NamesBus view directory other → bus ≤ other

section Function

variable {view : View} {directory : Path} {a : Pci.Address} {bus : UInt32} {r : Pci.BusRange}

private theorem namesBus_iff {entries : List (Except FileError Name)}
    (h : view.list (directory ++ [name "pci_bus"]) = .ok entries) :
    NamesBus view directory bus ↔
      bus ∈ entries.filterMap fun entry ↦ entry.toOption.bind busOf? := by
  rw [List.mem_filterMap]
  constructor
  · rintro ⟨entries', entry, hlist, hentry, hbus⟩
    cases h.symm.trans hlist
    exact ⟨.ok entry, hentry, hbus⟩
  · rintro ⟨found, hfound, hbus⟩
    cases found with
    | error fault => cases hbus
    | ok entry => exact ⟨entries, entry, h, hfound, hbus⟩

/-- Below a function is the lowest bus that is named, in its own domain. -/
theorem busesBelow?_eq_some_iff :
    busesBelow? view directory a = some r ↔
      ∃ bus, LowestBus view directory bus ∧ r = ⟨a.domain, bus, bus⟩ := by
  rw [busesBelow?]
  cases hlist : view.list (directory ++ [name "pci_bus"]) with
  | error fault =>
    constructor
    · intro h
      cases h
    · rintro ⟨bus, ⟨⟨entries, entry, hlist', -⟩, -⟩, -⟩
      cases hlist.symm.trans hlist'
  | ok entries =>
    simp only [Option.map_eq_some_iff, lowest?_eq_some_iff, LowestBus, namesBus_iff hlist,
      eq_comm (a := r)]

end Function

section Filled

variable {view : View} {start : Topology} {es : List Entry} {state : Topology × Added}

/-- Below the object of an entry are the buses below its function. -/
theorem Filled.buses? (h : Filled view start es state) (hroot : 0 < start.size) {k : Nat}
    {e : Entry} (hk : es[k]? = some e) :
    state.1.buses? ⟨start.size + k⟩ = busesBelow? view e.directory e.address := by
  obtain ⟨parent, children, -, hget⟩ := h.joined hroot k e hk
  rw [Topology.buses?, hget]
  rfl

private theorem exists_get?_foldl_addEntry (view : View) (es : List Entry) (hroot : 0 < start.size)
    {id : ObjectId} {o : Object} (ho : start.get? id = some o) :
    ∃ children, (es.foldl (addEntry view) (start, [])).1.get? id =
      some { o with children := children } := by
  induction es using List.reverseRecOn with
  | nil => exact ⟨o.children, ho⟩
  | append_singleton es e ih =>
    obtain ⟨children, hget⟩ := ih
    have hfilled := Filled.foldl_addEntry view start es
    have hlt := (hfilled.parentAmong e).lt hroot
    rw [← hfilled.size] at hlt
    rw [List.foldl_concat]
    exact Topology.exists_get?_insert hlt hget _

private theorem size_le_of_bind_get? (hstate : es.foldl (addEntry view) (.bare, []) = state)
    {β : Type}
    {seen : Object → Option β} (hmachine : ∀ children, seen { kind := .machine, children } = none)
    {id : ObjectId} {b : β} (h : (state.1.get? id).bind seen = some b) :
    Topology.bare.size ≤ id.index := by
  refine Nat.le_of_not_lt fun hlt ↦ ?_
  have hid : id = Topology.root := congrArg ObjectId.mk (Nat.lt_one_iff.mp hlt)
  have hget : Topology.bare.get? Topology.root = some { kind := .machine } := rfl
  obtain ⟨children, hget⟩ := exists_get?_foldl_addEntry view es Topology.isTree_bare.size_pos hget
  rw [← hstate, hid, hget, Option.bind_some, hmachine] at h
  cases h

/-- An object at an address was added to the machine. -/
theorem isNewAt_of_isAt (hstate : es.foldl (addEntry view) (.bare, []) = state) {a : Pci.Address}
    {id : ObjectId} (hat : state.1.IsAt a id) : IsNewAt .bare state.1 a id :=
  ⟨size_le_of_bind_get? hstate (fun _ ↦ rfl) hat, hat⟩

/-- An object that has buses below it was added to the machine for an entry. -/
theorem exists_entry_of_buses? (hstate : es.foldl (addEntry view) (.bare, []) = state)
    {id : ObjectId} {r : Pci.BusRange} (hbuses : state.1.buses? id = some r) :
    ∃ e ∈ es, IsNewAt .bare state.1 e.address id ∧
      ∃ bus, LowestBus view e.directory bus ∧ r = ⟨e.address.domain, bus, bus⟩ := by
  have hroot := Topology.isTree_bare.size_pos
  have hfilled : Filled view .bare es state := hstate ▸ .foldl_addEntry view .bare es
  have hle : Topology.bare.size ≤ id.index :=
    size_le_of_bind_get? hstate (fun _ ↦ rfl) hbuses
  have hlt : id.index < state.1.size := by
    obtain ⟨o, ho, -⟩ := Option.bind_eq_some_iff.mp hbuses
    exact Topology.lt_size_of_get? ho
  obtain ⟨k, e, hk, rfl⟩ := hfilled.exists_entry hle hlt
  rw [hfilled.buses? hroot hk, busesBelow?_eq_some_iff] at hbuses
  exact ⟨e, List.mem_of_getElem? hk, hfilled.isNewAt hroot hk, hbuses⟩

end Filled

/-- A range of one bus covers what is on that bus, in its domain. -/
theorem covers_iff_of_buses? {t : Topology} {id : ObjectId} {domain bus : UInt32}
    (h : t.buses? id = some ⟨domain, bus, bus⟩) (a : Pci.Address) :
    t.Covers a id ↔ a.domain = domain ∧ a.bus = bus := by
  rw [Topology.Covers, h]
  constructor
  · rintro ⟨r, hr, hdomain, hlow, hhigh⟩
    cases hr
    exact ⟨hdomain.symm, UInt32.le_antisymm hhigh hlow⟩
  · rintro ⟨rfl, rfl⟩
    exact ⟨_, rfl, rfl, UInt32.le_refl _, UInt32.le_refl _⟩

/-- A scan of a directory that is listed to its end adds its entries, the highest up first. -/
theorem exists_scan_eq {view : View} {listing : Path} {names : List Name}
    (h : view.list listing = .ok (names.map .ok)) (t : Topology) :
    ∃ state, (sortedEntries view listing names).foldl (addEntry view) (t, []) = state ∧
      scan view listing t = .ok (state.1, state.2.length) :=
  ⟨_, rfl, scan_eq_ok_iff.mpr ⟨_, entries_of_names h, rfl, rfl⟩⟩

/-- A listing of functions in which each is listed under the address that its directory is named by,
no two directories are named by the same address, and the buses that are named in the `pci_bus`
directory of a function are those of the functions right behind it. -/
structure WellWired (tree : FileTree) (listing : Path) (names : List Name) : Prop where
  listed : tree.view.list listing = .ok (names.map .ok)
  own : ∀ a directory, Lists tree.view listing names a directory → lastAddress? directory = some a
  alone : ∀ p q a, tree.IsDirectory p → tree.IsDirectory q → lastAddress? p = some a →
    lastAddress? q = some a → p = q
  buses : ∀ a outer b inner bus, Lists tree.view listing names a outer →
    Lists tree.view listing names b inner → NearestAbove a outer inner →
    NamesBus tree.view outer bus → b.bus = bus

private theorem WellWired.eq_of_isAbove {tree : FileTree} {listing : Path} {names : List Name}
    (h : WellWired tree listing names) {a b : Pci.Address} {outer directory inner : Path}
    {bus : UInt32} (ha : Lists tree.view listing names a directory)
    (hbus : NamesBus tree.view directory bus) (hb : Lists tree.view listing names b inner)
    (habove : IsAbove outer inner) (hnamed : lastAddress? outer = some a) : outer = directory := by
  have hown := h.own a directory ha
  obtain ⟨_, -, -, hdirectory⟩ := ha
  obtain ⟨_, -, -, hinner⟩ := hb
  obtain ⟨entries, -, hlist, -⟩ := hbus
  have houter : tree.IsDirectory outer :=
    FileTree.isDirectory_of_isAbove habove (FileTree.isReal_of_walk .root hinner)
  have hreal : tree.IsReal directory := FileTree.isReal_of_walk .root hdirectory
  exact h.alone outer directory a houter (hreal.isDirectory_of_list hlist) hnamed hown

/-- Where functions are wired as their directories say, the range of an object after a scan is the
lowest bus that its `pci_bus` directory names, in its own domain, and covers what is on that bus
only. These are the objects directly below it that are in that domain, for one. -/
theorem ranges_cover_children {tree : FileTree} {listing : Path} {names : List Name}
    (h : WellWired tree listing names) :
    ∃ t count, scan tree.view listing .bare = .ok (t, count) ∧
      ∀ id r, t.buses? id = some r → ∃ b directory bus,
        Lists tree.view listing names b directory ∧ t.IsAt b id ∧
        LowestBus tree.view directory bus ∧ r = ⟨b.domain, bus, bus⟩ ∧
        (∀ a, t.Covers a id ↔ a.domain = b.domain ∧ a.bus = bus) ∧
        ∀ child a, t.parent? child = some id → t.IsAt a child → a.domain = b.domain →
          t.Covers a id := by
  have hroot := Topology.isTree_bare.size_pos
  obtain ⟨state, hstate, hscan⟩ := exists_scan_eq h.listed .bare
  have hfilled : Filled tree.view .bare (sortedEntries tree.view listing names) state :=
    hstate ▸ .foldl_addEntry tree.view .bare _
  refine ⟨_, _, hscan, fun id r hbuses ↦ ?_⟩
  obtain ⟨f, hf, hid, bus, hlowest, rfl⟩ := exists_entry_of_buses? hstate hbuses
  have hlists := (lists_of_mem_sortedEntries hf).1
  have hcovers := covers_iff_of_buses? hbuses
  refine ⟨f.address, f.directory, bus, hlists, hid.2, hlowest, rfl, hcovers, ?_⟩
  intro child a hparent hat hdomain
  refine (hcovers a).mpr ⟨hdomain, ?_⟩
  obtain ⟨k, e, hk, rfl, rfl⟩ :=
    hfilled.exists_entry_of_isNewAt hroot (isNewAt_of_isAt hstate hat)
  obtain ⟨he, hbehind⟩ := lists_of_mem_sortedEntries (List.mem_of_getElem? hk)
  rcases hfilled.parent_cases hroot hk with ⟨g, -, hg, p, hp, hp'⟩ | ⟨-, hp'⟩
  · -- The child was added below the latest object for the address that its directory is behind.
    cases hparent.symm.trans hp'
    rw [hbehind, hp.address_eq hid] at hg
    obtain ⟨outer, hnear⟩ := addressAbove?_eq_some_iff.mp hg
    have houter : outer = f.directory :=
      h.eq_of_isAbove hlists hlowest.1 he hnear.isAbove hnear.named
    exact h.buses _ _ _ _ _ hlists he (houter ▸ hnear) hlowest.1
  · cases hparent.symm.trans hp'
    exact absurd hid.1 (Nat.not_le_of_lt hroot)

/-- The directory of a bridge. -/
def upperBridge : Path := [name "sys", name "0000:00:01.0"]

/-- The directory of a bridge behind that one. -/
def lowerBridge : Path := upperBridge ++ [name "0000:01:00.0"]

/-- A host with these two bridges and an endpoint behind the lower one. -/
def chainedHost : FileTree where
  nodes :=
    let endpoint := lowerBridge ++ [name "0000:02:00.0"]
    [([name "sys"], .directory), (upperBridge, .directory), (lowerBridge, .directory),
      (endpoint, .directory),
      (upperBridge ++ [name "class"], .file (name "0x060400\n")),
      (lowerBridge ++ [name "class"], .file (name "0x060400\n")),
      (upperBridge ++ [name "pci_bus"], .directory),
      (upperBridge ++ [name "pci_bus", name "0000:01"], .directory),
      (lowerBridge ++ [name "pci_bus"], .directory),
      (lowerBridge ++ [name "pci_bus", name "0000:02"], .directory),
      ([name "devices"], .directory),
      ([name "devices", name "0000:00:01.0"], .link upperBridge),
      ([name "devices", name "0000:01:00.0"], .link lowerBridge),
      ([name "devices", name "0000:02:00.0"], .link endpoint)]

/-- What that host lists. -/
def chainedNames : List Name := [name "0000:00:01.0", name "0000:01:00.0", name "0000:02:00.0"]

/-- The entries of what that host lists. -/
def chainedEntries : List Entry :=
  [⟨⟨0, 0, 1, 0⟩, upperBridge, none⟩, ⟨⟨0, 1, 0, 0⟩, lowerBridge, some ⟨0, 0, 1, 0⟩⟩,
    ⟨⟨0, 2, 0, 0⟩, lowerBridge ++ [name "0000:02:00.0"], some ⟨0, 1, 0, 0⟩⟩]

/-- The topology of that host. -/
def chainedTopology : Topology where
  objects :=
    [{ kind := .machine, children := [⟨1⟩] },
      { kind := .bridge, pci := some { address := ⟨0, 0, 1, 0⟩, classId := bridgeClass },
        buses := some ⟨0, 1, 1⟩, parent := some ⟨0⟩, children := [⟨2⟩] },
      { kind := .bridge, pci := some { address := ⟨0, 1, 0, 0⟩, classId := bridgeClass },
        buses := some ⟨0, 2, 2⟩, parent := some ⟨1⟩, children := [⟨3⟩] },
      { kind := .pciDevice, pci := some { address := ⟨0, 2, 0, 0⟩ }, parent := some ⟨2⟩ }]

/-- A scan of that host. -/
theorem scan_chainedHost :
    scan chainedHost.view [name "devices"] .bare = .ok (chainedTopology, 3) := by
  have hlisted : entries chainedHost.view [name "devices"] = .ok chainedEntries := rfl
  exact scan_of_sorted .bare hlisted (List.mergeSort_of_pairwise (by decide))

private theorem mem_chainedEntries {a : Pci.Address} {directory : Path} :
    Lists chainedHost.view [name "devices"] chainedNames a directory ↔
      ⟨a, directory, addressAbove? directory⟩ ∈ chainedEntries := by
  have hentries : chainedNames.filterMap (entryNamed? chainedHost.view [name "devices"]) =
      chainedEntries := rfl
  rw [lists_iff, hentries]

/-- The functions of that host are wired as their directories say. -/
theorem wellWired_chainedHost : WellWired chainedHost [name "devices"] chainedNames where
  listed := rfl
  own a directory h := by
    have hown : ∀ e ∈ chainedEntries, lastAddress? e.directory = some e.address := by decide
    exact hown _ (mem_chainedEntries.mp h)
  alone _ _ _ hp hq := eq_of_lastAddress? (by decide) hp.resolve_eq hq.resolve_eq
  buses a outer b inner bus ha hb hnear hbus := by
    have hbehind : addressAbove? inner = some a := addressAbove?_eq_some_iff.mpr ⟨outer, hnear⟩
    have hlinked : ∀ e ∈ chainedEntries, ∀ f ∈ chainedEntries, f.behind = some e.address →
        (e.directory, f.address.bus) ∈ [(upperBridge, 1), (lowerBridge, 2)] := by decide
    have hupper : chainedHost.view.list (upperBridge ++ [name "pci_bus"]) =
        .ok [.ok (name "0000:01")] := rfl
    have hlower : chainedHost.view.list (lowerBridge ++ [name "pci_bus"]) =
        .ok [.ok (name "0000:02")] := rfl
    rcases List.mem_pair.mp (hlinked _ (mem_chainedEntries.mp ha) _ (mem_chainedEntries.mp hb)
      hbehind) with heq | heq
    · obtain ⟨rfl, hb⟩ := Prod.mk.inj heq
      have hone := (namesBus_iff hupper).mp hbus
      exact hb.trans (List.mem_singleton.mp hone).symm
    · obtain ⟨rfl, hb⟩ := Prod.mk.inj heq
      have htwo := (namesBus_iff hlower).mp hbus
      exact hb.trans (List.mem_singleton.mp htwo).symm

/-- The range of the upper bridge of that host does not cover the endpoint, which is below it. -/
theorem chained_endpoint_uncovered :
    WellWired chainedHost [name "devices"] chainedNames ∧
    scan chainedHost.view [name "devices"] .bare = .ok (chainedTopology, 3) ∧
    chainedTopology.climb? 2 ⟨3⟩ = some ⟨1⟩ ∧ chainedTopology.IsAt ⟨0, 0, 1, 0⟩ ⟨1⟩ ∧
    chainedTopology.IsAt ⟨0, 2, 0, 0⟩ ⟨3⟩ ∧ chainedTopology.buses? ⟨1⟩ = some ⟨0, 1, 1⟩ ∧
    ¬chainedTopology.Covers ⟨0, 2, 0, 0⟩ ⟨1⟩ := by
  refine ⟨wellWired_chainedHost, scan_chainedHost, rfl, rfl, rfl, rfl, fun hcovers ↦ ?_⟩
  have hbus := ((covers_iff_of_buses? rfl _).mp hcovers).2
  exact absurd hbus (by decide)

/-- The upper bridge covers the lower one and that the endpoint, each what is directly below it. -/
theorem chained_host_ranges :
    let t := chainedTopology
    WellWired chainedHost [name "devices"] chainedNames ∧
    scan chainedHost.view [name "devices"] .bare = .ok (t, 3) ∧
    t.parent? ⟨3⟩ = some ⟨2⟩ ∧ t.parent? ⟨2⟩ = some ⟨1⟩ ∧
    ∀ id r, t.buses? id = some r → ∃ b directory bus,
      Lists chainedHost.view [name "devices"] chainedNames b directory ∧ t.IsAt b id ∧
      LowestBus chainedHost.view directory bus ∧ r = ⟨b.domain, bus, bus⟩ ∧
      (∀ a, t.Covers a id ↔ a.domain = b.domain ∧ a.bus = bus) ∧
      ∀ child a, t.parent? child = some id → t.IsAt a child → a.domain = b.domain →
        t.Covers a id := by
  intro t
  obtain ⟨t', count, hscan, hranges⟩ := ranges_cover_children wellWired_chainedHost
  rw [scan_chainedHost, Except.ok.injEq, Prod.mk.injEq] at hscan
  obtain ⟨rfl, -⟩ := hscan
  exact ⟨wellWired_chainedHost, scan_chainedHost, rfl, rfl, hranges⟩

end Scan

end AcceleratorTopology
