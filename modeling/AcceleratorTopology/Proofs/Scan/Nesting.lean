import AcceleratorTopology.Proofs.Files.RealPaths
import AcceleratorTopology.Proofs.History
import AcceleratorTopology.Proofs.Scan.Additions

/-!
# How a scan mirrors directories

Where every function that is listed has a directory of its own, named by its address, the objects
that a scan adds are nested as these directories are. An entry finds the object that it belongs
below because a directory above another one has fewer names in its path, and is added earlier.
-/

namespace AcceleratorTopology.Scan

open Files

/-- A directory is somewhere above another one. -/
def IsAbove (outer inner : Path) : Prop := outer <+: inner ∧ outer ≠ inner

/-- The address that the last name of a path spells. -/
def lastAddress? (path : Path) : Option Pci.Address := path.getLast?.bind addressOf?

/-- The nearest directory above another one that is named by an address. -/
structure NearestAbove (a : Pci.Address) (outer inner : Path) : Prop where
  isAbove : IsAbove outer inner
  named : lastAddress? outer = some a
  nearest : ∀ mid, IsAbove outer mid → IsAbove mid inner → lastAddress? mid = none

section Paths

variable {outer mid inner path : Path} {own : Name} {a : Pci.Address}

private theorem isAbove_concat_iff : IsAbove outer (path ++ [own]) ↔ outer <+: path := by
  rw [IsAbove, List.prefix_concat_iff]
  constructor
  · rintro ⟨heq | hway, hne⟩
    · exact absurd heq hne
    · exact hway
  · intro hway
    refine ⟨.inr hway, fun heq ↦ ?_⟩
    have hle := hway.length_le
    rw [heq, List.length_append, List.length_singleton] at hle
    omega

private theorem not_isAbove_root : ¬IsAbove outer [] := fun h ↦ h.2 (List.prefix_nil.mp h.1)

/-- A path to a directory above has fewer names. -/
theorem IsAbove.length_lt (h : IsAbove outer inner) : outer.length < inner.length :=
  Nat.lt_of_le_of_ne h.1.length_le fun heq ↦ h.2 (h.1.eq_of_length heq)

private theorem IsAbove.compare (h : IsAbove outer inner) (h' : IsAbove mid inner) :
    IsAbove outer mid ∨ outer = mid ∨ IsAbove mid outer := by
  rcases List.prefix_or_prefix_of_prefix h.1 h'.1 with hway | hway
  · by_cases heq : outer = mid
    · exact .inr (.inl heq)
    · exact .inl ⟨hway, heq⟩
  · by_cases heq : outer = mid
    · exact .inr (.inl heq)
    · exact .inr (.inr ⟨hway, Ne.symm heq⟩)

/-- What is above a directory above is above. -/
theorem IsAbove.trans (h : IsAbove outer mid) (h' : IsAbove mid inner) : IsAbove outer inner := by
  refine ⟨h.1.trans h'.1, fun heq ↦ ?_⟩
  have hlt := h.length_lt
  have hlt' := h'.length_lt
  rw [heq] at hlt
  omega

private theorem addressAbove?_concat :
    addressAbove? (path ++ [own]) = (lastAddress? path).or (addressAbove? path) := by
  rw [addressAbove?, List.dropLast_concat]
  rcases path.eq_nil_or_concat with rfl | ⟨start, last, rfl⟩
  · rfl
  · rw [List.concat_eq_append, lastAddress?, addressAbove?, List.getLast?_concat,
      List.dropLast_concat, List.reverse_concat, List.findSome?_cons, Option.bind_some]
    cases addressOf? last <;> rfl

private theorem nearestAbove_concat_iff : NearestAbove a outer (path ++ [own]) ↔
    lastAddress? path = some a ∧ outer = path ∨
      lastAddress? path = none ∧ NearestAbove a outer path := by
  constructor
  · rintro ⟨habove, hnamed, hnearest⟩
    rw [isAbove_concat_iff] at habove
    by_cases heq : outer = path
    · exact .inl ⟨heq ▸ hnamed, heq⟩
    · refine .inr ⟨hnearest path ⟨habove, heq⟩ ?_, ⟨habove, heq⟩, hnamed, fun mid hmid hmid' ↦ ?_⟩
      · exact isAbove_concat_iff.mpr List.prefix_rfl
      · exact hnearest mid hmid (isAbove_concat_iff.mpr hmid'.1)
  · rintro (⟨hnamed, rfl⟩ | ⟨hnone, habove, hnamed, hnearest⟩)
    · refine ⟨isAbove_concat_iff.mpr List.prefix_rfl, hnamed, fun mid hmid hmid' ↦ ?_⟩
      have hle := (isAbove_concat_iff.mp hmid').length_le
      exact absurd hmid.length_lt (Nat.not_lt_of_le hle)
    · refine ⟨isAbove_concat_iff.mpr habove.1, hnamed, fun mid hmid hmid' ↦ ?_⟩
      by_cases heq : mid = path
      · exact heq ▸ hnone
      · exact hnearest mid hmid ⟨isAbove_concat_iff.mp hmid', heq⟩

/-- The address that a directory is found behind is that of the nearest one above. -/
theorem addressAbove?_eq_some_iff :
    addressAbove? inner = some a ↔ ∃ outer, NearestAbove a outer inner := by
  induction inner using List.reverseRecOn with
  | nil =>
    constructor
    · intro h
      cases h
    · rintro ⟨outer, habove, -, -⟩
      exact absurd habove not_isAbove_root
  | append_singleton path own ih =>
    simp only [addressAbove?_concat, nearestAbove_concat_iff, Option.or_eq_some_iff, ih]
    grind

private theorem exists_nearestAbove (h : IsAbove outer inner)
    (hnamed : lastAddress? outer = some a) : ∃ b mid, NearestAbove b mid inner ∧ outer <+: mid := by
  induction inner using List.reverseRecOn with
  | nil => exact absurd h not_isAbove_root
  | append_singleton path own ih =>
    rw [isAbove_concat_iff] at h
    cases hpath : lastAddress? path with
    | some b => exact ⟨b, path, nearestAbove_concat_iff.mpr (.inl ⟨hpath, rfl⟩), h⟩
    | none =>
      have hne : outer ≠ path := by
        rintro rfl
        rw [hnamed] at hpath
        cases hpath
      obtain ⟨b, mid, hmid, hway⟩ := ih ⟨h, hne⟩
      exact ⟨b, mid, nearestAbove_concat_iff.mpr (.inr ⟨hpath, hmid⟩), hway⟩

end Paths

/-- A listing in which every function has a directory of its own that is named by its address: the
names spell different addresses, no two files or directories anywhere are named by the same
address, and what is listed for an address is named by it. -/
structure WellNamed (view : View) (listing : Path) (names : List Name) : Prop where
  listed : view.list listing = .ok (names.map .ok)
  differ : AddressesDiffer names
  alone : ∀ p q a, view.resolve p = .ok p → view.resolve q = .ok q → lastAddress? p = some a →
    lastAddress? q = some a → p = q
  own : ∀ a directory, Lists view listing names a directory → lastAddress? directory = some a

/-- The objects that have joined a topology since are those of the functions that are listed, each
below the nearest directory above its own that is named by an address if that function is listed,
too, and below the root otherwise. -/
structure Mirrors (t t' : Topology) (lists : Pci.Address → Path → Prop) : Prop where
  unique : ∀ a directory, lists a directory → ∃! id, IsNewAt t t' a id
  listed : ∀ id, t.size ≤ id.index → id.index < t'.size →
    ∃ a directory, lists a directory ∧ IsNewAt t t' a id
  behind : ∀ a directory id b outer q, lists a directory → IsNewAt t t' a id →
    NearestAbove b outer directory → lists b q →
    lists b outer ∧ ∃ p, IsNewAt t t' b p ∧ t'.parent? id = some p
  topmost : ∀ a directory id, lists a directory → IsNewAt t t' a id →
    (∀ b outer q, NearestAbove b outer directory → ¬lists b q) →
    t'.parent? id = some Topology.root

/-- A directory is above another one, and whatever is between them and named by an address is
listed. -/
def Encloses (lists : Pci.Address → Path → Prop) (outer inner : Path) : Prop :=
  IsAbove outer inner ∧ ∀ mid b, IsAbove outer mid → IsAbove mid inner →
    lastAddress? mid = some b → ∃ q, lists b q

section Encloses

variable {lists : Pci.Address → Path → Prop} {outer mid inner : Path} {a b : Pci.Address}

private theorem NearestAbove.encloses (h : NearestAbove b outer inner) :
    Encloses lists outer inner := by
  refine ⟨h.isAbove, fun mid c habove hbelow hnamed ↦ ?_⟩
  rw [h.nearest mid habove hbelow] at hnamed
  cases hnamed

private theorem Encloses.below (h : Encloses lists outer mid) (hmid : NearestAbove b mid inner)
    (hlists : lists b mid) : Encloses lists outer inner := by
  refine ⟨h.1.trans hmid.isAbove, fun other c habove hbelow hnamed ↦ ?_⟩
  rcases hbelow.compare hmid.isAbove with hother | rfl | hother
  · exact h.2 other c habove hother hnamed
  · rw [hmid.named, Option.some.injEq] at hnamed
    exact ⟨other, hnamed ▸ hlists⟩
  · rw [hmid.nearest other hother hbelow] at hnamed
    cases hnamed

private theorem Encloses.nearest (h : Encloses lists outer inner)
    (hnamed : lastAddress? outer = some a) :
    NearestAbove a outer inner ∨ ∃ b mid q, NearestAbove b mid inner ∧ lists b q ∧
      Encloses lists outer mid := by
  obtain ⟨b, mid, hmid, hway⟩ := exists_nearestAbove h.1 hnamed
  by_cases heq : outer = mid
  · subst heq
    rw [hmid.named, Option.some.injEq] at hnamed
    exact .inl (hnamed ▸ hmid)
  · have habove : IsAbove outer mid := ⟨hway, heq⟩
    obtain ⟨q, hq⟩ := h.2 mid b habove hmid.isAbove hmid.named
    refine .inr ⟨b, mid, q, hmid, hq, habove, fun other c hother hother' ↦ ?_⟩
    exact h.2 other c hother (hother'.trans hmid.isAbove)

end Encloses

/-- The entries of a listing in the order in which they are added. -/
def sortedEntries (view : View) (listing : Path) (names : List Name) : List Entry :=
  (names.filterMap (entryNamed? view listing)).mergeSort Entry.precedes

section Sorted

variable {view : View} {listing : Path} {names : List Name}

/-- What is listed is an entry. -/
theorem mem_sortedEntries {a : Pci.Address} {directory : Path} :
    ⟨a, directory, addressAbove? directory⟩ ∈ sortedEntries view listing names ↔
      Lists view listing names a directory := by
  rw [sortedEntries, (List.mergeSort_perm _ _).mem_iff, lists_iff]

/-- An entry is listed. -/
theorem lists_of_mem_sortedEntries {e : Entry} (he : e ∈ sortedEntries view listing names) :
    Lists view listing names e.address e.directory ∧ e.behind = addressAbove? e.directory := by
  rw [sortedEntries, (List.mergeSort_perm _ _).mem_iff] at he
  exact lists_of_mem he

private theorem AddressesDiffer.nodup_sortedEntries (h : AddressesDiffer names) :
    ((sortedEntries view listing names).map Entry.address).Nodup :=
  (((List.mergeSort_perm _ _).map _).nodup_iff).mpr h.nodup

/-- The address of an entry tells its position. -/
theorem AddressesDiffer.index_eq (h : AddressesDiffer names) {j k : Nat} {e f : Entry}
    (hj : (sortedEntries view listing names)[j]? = some e)
    (hk : (sortedEntries view listing names)[k]? = some f) (haddress : e.address = f.address) :
    j = k := by
  have hlt : j < ((sortedEntries view listing names).map Entry.address).length := by
    rw [List.length_map]
    exact (List.getElem?_eq_some_iff.mp hj).1
  refine (List.getElem?_inj hlt h.nodup_sortedEntries).mp ?_
  rw [List.getElem?_map, List.getElem?_map, hj, hk, Option.map_some, haddress, Option.map_some]

private theorem index_lt_of_length_lt {j k : Nat} {e f : Entry}
    (hj : (sortedEntries view listing names)[j]? = some e)
    (hk : (sortedEntries view listing names)[k]? = some f)
    (hlt : e.directory.length < f.directory.length) : j < k := by
  obtain ⟨hj', rfl⟩ := List.getElem?_eq_some_iff.mp hj
  obtain ⟨hk', rfl⟩ := List.getElem?_eq_some_iff.mp hk
  rcases Nat.lt_trichotomy j k with hjk | rfl | hkj
  · exact hjk
  · exact absurd hlt (Nat.lt_irrefl _)
  · have hsorted : (sortedEntries view listing names).Pairwise fun e f ↦ e.precedes f = true :=
      pairwise_mergeSort_precedes _
    have hprecedes := List.pairwise_iff_getElem.mp hsorted k j hk' hj' hkj
    rw [Entry.precedes_iff] at hprecedes
    omega

end Sorted

section WellNamed

variable {view : View} {listing : Path} {names : List Name} {t : Topology}
  {state : Topology × Added}

private theorem Lists.resolve_self {a : Pci.Address} {directory outer : Path}
    (h : Lists view listing names a directory) (hreal : view.LeadsToReal)
    (hway : outer <+: directory) : view.resolve outer = .ok outer := by
  obtain ⟨name, -, -, hresolve⟩ := h
  exact hreal _ _ hresolve outer hway

private theorem WellNamed.eq_of_lists (h : WellNamed view listing names) (hreal : view.LeadsToReal)
    {a b : Pci.Address} {directory outer q : Path} (ha : Lists view listing names a directory)
    (hway : outer <+: directory) (hnamed : lastAddress? outer = some b)
    (hb : Lists view listing names b q) : q = outer :=
  h.alone q outer b (hb.resolve_self hreal List.prefix_rfl) (ha.resolve_self hreal hway)
    (h.own b q hb) hnamed

/-- One directory is listed for an address. -/
theorem WellNamed.directory_unique (h : WellNamed view listing names) (hreal : view.LeadsToReal)
    {a : Pci.Address} {directory q : Path} (ha : Lists view listing names a directory)
    (hq : Lists view listing names a q) : q = directory :=
  h.eq_of_lists hreal ha List.prefix_rfl (h.own a directory ha) hq

private theorem WellNamed.exists_entry (h : WellNamed view listing names) (hreal : view.LeadsToReal)
    (hroot : 0 < t.size) (hfilled : Filled view t (sortedEntries view listing names) state)
    {a : Pci.Address} {directory : Path} {id : ObjectId}
    (ha : Lists view listing names a directory) (hnew : IsNewAt t state.1 a id) :
    ∃ k, (sortedEntries view listing names)[k]? = some ⟨a, directory, addressAbove? directory⟩ ∧
      id = ⟨t.size + k⟩ := by
  obtain ⟨k, e, hk, rfl, rfl⟩ := hfilled.exists_entry_of_isNewAt hroot hnew
  obtain ⟨he, hbehind⟩ := lists_of_mem_sortedEntries (List.mem_of_getElem? hk)
  have hdirectory := h.directory_unique hreal ha he
  refine ⟨k, ?_, rfl⟩
  rw [hk, ← hdirectory, ← hbehind]

/-- Entries that are added in order mirror the nesting of their directories. -/
theorem WellNamed.mirrors (h : WellNamed view listing names) (hreal : view.LeadsToReal)
    (hroot : 0 < t.size) (hfilled : Filled view t (sortedEntries view listing names) state) :
    Mirrors t state.1 (Lists view listing names) where
  unique a directory ha := by
    obtain ⟨k, hk⟩ := List.mem_iff_getElem?.mp (mem_sortedEntries.mpr ha)
    refine ⟨⟨t.size + k⟩, hfilled.isNewAt hroot hk, fun id hid ↦ ?_⟩
    obtain ⟨k', hk', rfl⟩ := h.exists_entry hreal hroot hfilled ha hid
    rw [h.differ.index_eq hk' hk rfl]
  listed id hle hlt := by
    obtain ⟨k, e, hk, rfl⟩ := hfilled.exists_entry hle hlt
    have hlists := (lists_of_mem_sortedEntries (List.mem_of_getElem? hk)).1
    exact ⟨e.address, e.directory, hlists, hfilled.isNewAt hroot hk⟩
  behind a directory id b outer q ha hid hnear hb := by
    have hq : q = outer := h.eq_of_lists hreal ha hnear.isAbove.1 hnear.named hb
    subst hq
    refine ⟨hb, ?_⟩
    obtain ⟨k, hk, rfl⟩ := h.exists_entry hreal hroot hfilled ha hid
    have hbehind : addressAbove? directory = some b := addressAbove?_eq_some_iff.mpr ⟨q, hnear⟩
    rcases hfilled.parent_cases hroot hk with ⟨f, -, hf, p, hp, hparent⟩ | ⟨hnone, -⟩
    · rw [← Option.some.inj (hbehind.symm.trans hf)] at hp
      exact ⟨p, hp, hparent⟩
    · -- The directory above is listed, has fewer names in its path, and so was added earlier.
      obtain ⟨j, hj⟩ := List.mem_iff_getElem?.mp (mem_sortedEntries.mpr hb)
      have hjk : j < k := index_lt_of_length_lt hj hk hnear.isAbove.length_lt
      have htake := (List.getElem?_take_of_lt hjk).trans hj
      exact absurd hbehind (hnone _ (List.mem_of_getElem? htake))
  topmost a directory id ha hid hnone := by
    obtain ⟨k, hk, rfl⟩ := h.exists_entry hreal hroot hfilled ha hid
    rcases hfilled.parent_cases hroot hk with ⟨f, hmem, hbehind, -⟩ | ⟨-, hparent⟩
    · obtain ⟨outer, hnear⟩ := addressAbove?_eq_some_iff.mp hbehind
      have hlists := (lists_of_mem_sortedEntries hmem).1
      exact absurd hlists (hnone f.address outer f.directory hnear)
    · exact hparent

/-- A scan of well-named functions adds all entries and counts each. -/
theorem WellNamed.scan_eq_ok (h : WellNamed view listing names) (t : Topology) :
    ∃ state, Filled view t (sortedEntries view listing names) state ∧
      scan view listing t = .ok (state.1, (sortedEntries view listing names).length) := by
  have hfilled : Filled view t (sortedEntries view listing names)
      (addEntries view t (names.filterMap (entryNamed? view listing))) :=
    filled_addEntries view t _
  refine ⟨_, hfilled, scan_eq_ok_iff.mpr ⟨_, entries_of_names h.listed, rfl, ?_⟩⟩
  rw [hfilled.length_added, List.dedup_eq_self.mpr h.differ.nodup_sortedEntries, List.length_map]

end WellNamed

namespace Mirrors

variable {t t' : Topology} {lists : Pci.Address → Path → Prop} {a a' : Pci.Address}
  {directory directory' : Path} {id id' : ObjectId}

private theorem parent_cases (h : Mirrors t t' lists) (ha : lists a directory)
    (hid : IsNewAt t t' a id) :
    (∃ b outer p, NearestAbove b outer directory ∧ lists b outer ∧ IsNewAt t t' b p ∧
      t'.parent? id = some p) ∨ t'.parent? id = some Topology.root := by
  by_cases hb : ∃ b outer q, NearestAbove b outer directory ∧ lists b q
  · obtain ⟨b, outer, q, hnear, hq⟩ := hb
    obtain ⟨hlists, p, hp, hparent⟩ := h.behind a directory id b outer q ha hid hnear hq
    exact .inl ⟨b, outer, p, hnear, hlists, hp, hparent⟩
  · have hnone : ∀ b outer q, NearestAbove b outer directory → ¬lists b q :=
      fun b outer q hnear hq ↦ hb ⟨b, outer, q, hnear, hq⟩
    exact .inr (h.topmost a directory id ha hid hnone)

private theorem encloses_of_climb? (h : Mirrors t t' lists) (hroot : 0 < t.size)
    (htop : t'.parent? Topology.root = none) (hid' : IsNewAt t t' a' id')
    (honly : ∀ q, lists a' q → q = directory') {links : Nat} (ha : lists a directory)
    (hid : IsNewAt t t' a id) (hclimb : t'.climb? (links + 1) id = some id') :
    Encloses lists directory' directory := by
  have hne : Topology.root ≠ id' := by
    rintro rfl
    exact absurd hid'.1 (Nat.not_le_of_lt hroot)
  induction links generalizing a directory id with
  | zero =>
    rcases h.parent_cases ha hid with ⟨b, outer, p, hnear, hb, hp, hparent⟩ | hparent
    · rw [Topology.climb?, hparent, Option.bind_some, Topology.climb?, Option.some.injEq] at hclimb
      subst hclimb
      rw [hp.address_eq hid'] at hb
      exact honly outer hb ▸ hnear.encloses
    · rw [Topology.climb?, hparent, Option.bind_some, Topology.climb?, Option.some.injEq] at hclimb
      exact absurd hclimb hne
  | succ links ih =>
    rcases h.parent_cases ha hid with ⟨b, outer, p, hnear, hb, hp, hparent⟩ | hparent
    · rw [Topology.climb?, hparent, Option.bind_some] at hclimb
      exact (ih hb hp hclimb).below hnear hb
    · rw [Topology.climb?, hparent, Option.bind_some, Topology.climb?, htop] at hclimb
      cases hclimb

private theorem exists_climb? (h : Mirrors t t' lists) (ha' : lists a' directory')
    (hid' : IsNewAt t t' a' id') (hnamed : lastAddress? directory' = some a')
    (ha : lists a directory) (hid : IsNewAt t t' a id)
    (hencloses : Encloses lists directory' directory) :
    ∃ links, t'.climb? (links + 1) id = some id' := by
  -- Each link leads to a directory with fewer names in its path.
  induction hn : directory.length using Nat.strongRecOn generalizing a directory id with
  | ind n ih =>
    rcases hencloses.nearest hnamed with hnear | ⟨b, mid, q, hnear, hq, hmid⟩
    · obtain ⟨-, p, hp, hparent⟩ := h.behind a directory id _ _ _ ha hid hnear ha'
      have hp' : p = id' := (h.unique a' directory' ha').unique hp hid'
      refine ⟨0, ?_⟩
      rw [Topology.climb?, hparent, hp']
      rfl
    · obtain ⟨hlists, p, hp, hparent⟩ := h.behind a directory id _ _ _ ha hid hnear hq
      have hlt : mid.length < n := hn ▸ hnear.isAbove.length_lt
      obtain ⟨links, hclimb⟩ := ih mid.length hlt hlists hp hmid rfl
      refine ⟨links + 1, ?_⟩
      rw [Topology.climb?, hparent]
      exact hclimb

end Mirrors

/-- Where every listed function has a directory of its own that is named by its address, a scan adds
one object for each, at its address. That object is below the one for the nearest directory above
that is named by an address, if that is listed, and else below the root. So at every depth objects
are nested as their directories are, as far as whatever is between these is listed. -/
theorem scan_mirrors_nesting {tree : FileTree} {listing : Path} {names : List Name} {t : Topology}
    (h : WellNamed tree.view listing names) (ht : t.IsTree) :
    let lists := Lists tree.view listing names
    ∃ es t', entries tree.view listing = .ok es ∧
      scan tree.view listing t = .ok (t', es.length) ∧ t'.size = t.size + es.length ∧
      Mirrors t t' lists ∧
      ∀ a directory id a' directory' id', lists a directory → IsNewAt t t' a id →
        lists a' directory' → IsNewAt t t' a' id' →
        ((∃ links, t'.climb? (links + 1) id = some id') ↔
          Encloses lists directory' directory) := by
  intro lists
  have hreal := tree.leadsToReal_view
  obtain ⟨state, hfilled, hscan⟩ := h.scan_eq_ok t
  have hlength : (sortedEntries tree.view listing names).length = _ := List.length_mergeSort _
  have hsize := hfilled.size
  rw [hlength] at hscan hsize
  have hmirrors := h.mirrors hreal ht.size_pos hfilled
  have htop : state.1.parent? Topology.root = none :=
    (ht.edits (edits_scan ht.size_pos hscan)).parent_root
  refine ⟨_, state.1, entries_of_names h.listed, hscan, hsize, hmirrors, ?_⟩
  intro a directory id a' directory' id' ha hid ha' hid'
  constructor
  · rintro ⟨links, hclimb⟩
    have honly : ∀ q, lists a' q → q = directory' := fun q ↦ h.directory_unique hreal ha'
    exact hmirrors.encloses_of_climb? ht.size_pos htop hid' honly ha hid hclimb
  · exact hmirrors.exists_climb? ha' hid' (h.own a' directory' ha') ha hid

/-- No two files or directories of a tree are named by the same address if no two places are, at
which it has any. -/
theorem eq_of_lastAddress? {tree : FileTree}
    (h : ∀ p ∈ tree.places, ∀ q ∈ tree.places, ∀ a ∈ lastAddress? p, a ∈ lastAddress? q → p = q)
    {p q : Path} {a : Pci.Address} (hp : tree.resolve p = .ok p) (hq : tree.resolve q = .ok q)
    (hpa : lastAddress? p = some a) (hqa : lastAddress? q = some a) : p = q := by
  rcases FileTree.mem_places_of_resolve hp with rfl | hp
  · cases hpa
  · rcases FileTree.mem_places_of_resolve hq with rfl | hq
    · cases hqa
    · exact h p hp q hq a hpa hqa

private theorem wellNamed_nestedHost : WellNamed nestedHost.view [name "devices"]
    [name "0000:01:00.0", name "0000:00:01.0"] where
  listed := rfl
  differ := by decide
  alone _ _ _ hp hq := eq_of_lastAddress? (by decide) hp hq
  own a directory h := by
    obtain ⟨entry, hentry, haddress, hresolve⟩ := h
    have hendpoint : nestedHost.view.resolve [name "devices", name "0000:01:00.0"] =
        .ok [name "sys", name "0000:00:01.0", name "0000:01:00.0"] := rfl
    have hbridge : nestedHost.view.resolve [name "devices", name "0000:00:01.0"] =
        .ok [name "sys", name "0000:00:01.0"] := rfl
    rcases List.mem_pair.mp hentry with rfl | rfl
    · cases hendpoint.symm.trans hresolve
      exact haddress
    · cases hbridge.symm.trans hresolve
      exact haddress

/-- The endpoint of that host is below the bridge, as its directory is. -/
theorem nested_host_mirrored :
    let lists := Lists nestedHost.view [name "devices"] [name "0000:01:00.0", name "0000:00:01.0"]
    scan nestedHost.view [name "devices"] .bare = .ok (nestedTopology, 2) ∧
    nestedTopology.parent? ⟨2⟩ = some ⟨1⟩ ∧ nestedTopology.parent? ⟨1⟩ = some Topology.root ∧
    WellNamed nestedHost.view [name "devices"] [name "0000:01:00.0", name "0000:00:01.0"] ∧
    Topology.bare.IsTree ∧ Mirrors .bare nestedTopology lists ∧
    ∀ a directory id a' directory' id', lists a directory → IsNewAt .bare nestedTopology a id →
      lists a' directory' → IsNewAt .bare nestedTopology a' id' →
      ((∃ links, nestedTopology.climb? (links + 1) id = some id') ↔
        Encloses lists directory' directory) := by
  intro lists
  obtain ⟨es, t', -, hscan, -, hmirrors, hclimb⟩ :=
    scan_mirrors_nesting wellNamed_nestedHost Topology.isTree_bare
  rw [scan_nestedHost, Except.ok.injEq, Prod.mk.injEq] at hscan
  obtain ⟨rfl, -⟩ := hscan
  exact ⟨scan_nestedHost, rfl, rfl, wellNamed_nestedHost, Topology.isTree_bare, hmirrors, hclimb⟩

end AcceleratorTopology.Scan
