import AcceleratorTopology.Proofs.Scan.Entries
import AcceleratorTopology.Proofs.Topology.Search
import Mathlib.Data.List.Dedup

/-!
# What a scan adds

Each entry adds one object, below one that was added for an entry before it or else below the root.
What a scan counts are the addresses of its entries, though, and these are as many as the objects
that it adds only if no two entries share one.
-/

namespace AcceleratorTopology.Scan

open Files

namespace Added

variable {added : Added} {a b : Pci.Address} {id : ObjectId}

/-- The addresses for which objects have been added. -/
def addresses (added : Added) : List Pci.Address := added.map Prod.fst

private theorem addresses_put :
    (added.put a id).addresses = a :: added.addresses.filter (· != a) := by
  rw [put, addresses, List.map_cons, addresses, List.filter_map]
  rfl

private theorem mem_addresses_put :
    b ∈ (added.put a id).addresses ↔ b ∈ added.addresses ∨ b = a := by
  rw [addresses_put, List.mem_cons, List.mem_filter, bne_iff_ne]
  by_cases hb : b = a
  · simp [hb]
  · simp [hb]

private theorem nodup_addresses_put (h : added.addresses.Nodup) :
    (added.put a id).addresses.Nodup := by
  rw [addresses_put, List.nodup_cons]
  exact ⟨by simp, h.filter _⟩

private theorem lookup_put :
    (added.put a id).lookup b = if b = a then some id else added.lookup b := by
  rw [put]
  by_cases hb : b = a
  · simp [hb]
  · rw [if_neg hb, List.lookup_cons, beq_false_of_ne hb]
    change (added.filter (·.1 != a)).lookup b = added.lookup b
    induction added with
    | nil => rfl
    | cons first rest ih =>
      by_cases hfirst : first.1 = a
      · have hne : b ≠ first.1 := hfirst ▸ hb
        rw [List.filter_cons_of_neg (by simp [hfirst]), List.lookup_cons, beq_false_of_ne hne, ih]
      · rw [List.filter_cons_of_pos (by simp [hfirst]), List.lookup_cons, List.lookup_cons, ih]

private theorem lookup_eq_none : added.lookup a = none ↔ a ∉ added.addresses := by
  rw [List.lookup_eq_none_iff, addresses, List.mem_map]
  grind

end Added

/-- The object below which an entry is added after some others, the objects of which have
identities from `base` on: that of one with the address that the entry is behind, or the root if
there is none. -/
inductive ParentAmong (base : Nat) (before : List Entry) (e : Entry) : ObjectId → Prop
  | behind {k : Nat} {f : Entry} (hf : before[k]? = some f) (h : e.behind = some f.address) :
    ParentAmong base before e ⟨base + k⟩
  | root (h : ∀ f ∈ before, e.behind ≠ some f.address) : ParentAmong base before e Topology.root

/-- An entry is added below an object that is there. -/
theorem ParentAmong.lt {base : Nat} {before : List Entry} {e : Entry} {id : ObjectId}
    (h : ParentAmong base before e id) (hbase : 0 < base) : id.index < base + before.length := by
  cases h with
  | behind hf h => exact Nat.add_lt_add_left (List.getElem?_eq_some_iff.mp hf).1 base
  | root h => exact Nat.lt_add_right _ hbase

/-- How entries fill a topology, one after another. -/
structure Filled (view : View) (start : Topology) (es : List Entry) (state : Topology × Added) :
    Prop where
  size : state.1.size = start.size + es.length
  nodup : state.2.addresses.Nodup
  mem_addresses : ∀ a, a ∈ state.2.addresses ↔ a ∈ es.map Entry.address
  lookup : ∀ a id, state.2.lookup a = some id → ∃ (k : Nat) (e : Entry), es[k]? = some e ∧
    e.address = a ∧ id = ⟨start.size + k⟩
  joined : 0 < start.size → ∀ (k : Nat) (e : Entry), es[k]? = some e → ∃ parent children,
    ParentAmong start.size (es.take k) e parent ∧ state.1.get? ⟨start.size + k⟩ =
      some { object view e.directory e.address with parent := some parent, children := children }

/-- An object that has joined a topology since, and has an address. -/
def IsNewAt (t t' : Topology) (a : Pci.Address) (id : ObjectId) : Prop :=
  t.size ≤ id.index ∧ t'.IsAt a id

/-- An object that is new at two addresses shows that they are the same. -/
theorem IsNewAt.address_eq {t t' : Topology} {a b : Pci.Address} {id : ObjectId}
    (ha : IsNewAt t t' a id) (hb : IsNewAt t t' b id) : a = b :=
  Option.some.inj (ha.2.symm.trans hb.2)

namespace Filled

variable {view : View} {start : Topology} {es : List Entry} {state : Topology × Added}

/-- At first there are no entries. -/
theorem nil : Filled view start [] (start, []) where
  size := rfl
  nodup := List.nodup_nil
  mem_addresses _ := Iff.rfl
  lookup _ _ h := nomatch h
  joined _ _ _ h := nomatch h

/-- The object below which the next entry is added. -/
theorem parentAmong (h : Filled view start es state) (e : Entry) :
    ParentAmong start.size es e (parentOf state.2 e) := by
  rw [parentOf]
  cases hbehind : e.behind with
  | none =>
    refine .root fun f hf hf' ↦ ?_
    rw [hbehind] at hf'
    cases hf'
  | some a =>
    rw [Option.bind_some]
    cases hlookup : state.2.lookup a with
    | none =>
      refine .root fun f hf hf' ↦ ?_
      rw [hbehind, Option.some.injEq] at hf'
      have ha := Added.lookup_eq_none.mp hlookup
      rw [h.mem_addresses, hf'] at ha
      exact ha (List.mem_map_of_mem hf)
    | some id =>
      obtain ⟨k, f, hf, rfl, rfl⟩ := h.lookup a id hlookup
      exact .behind hf hbehind

/-- What the next entry adds. -/
theorem addEntry (h : Filled view start es state) (e : Entry) :
    Filled view start (es ++ [e]) (addEntry view state e) where
  size := by
    rw [Scan.addEntry, Topology.size_insert, h.size, List.length_append]
    rfl
  nodup := Added.nodup_addresses_put h.nodup
  mem_addresses a := by
    rw [Scan.addEntry, Added.mem_addresses_put, h.mem_addresses]
    simp
  lookup a id hlookup := by
    rw [Scan.addEntry, Added.lookup_put] at hlookup
    split at hlookup
    · next ha =>
      cases hlookup
      exact ⟨es.length, e, by simp, ha.symm, congrArg _ h.size⟩
    · obtain ⟨k, f, hf, hrest⟩ := h.lookup a id hlookup
      exact ⟨k, f, List.getElem?_append_left (List.getElem?_eq_some_iff.mp hf).1 ▸ hf, hrest⟩
  joined hroot k f hf := by
    have hparent := h.parentAmong e
    have hlt : (parentOf state.2 e).index < state.1.size := h.size ▸ hparent.lt hroot
    by_cases hk : k < es.length
    · rw [List.getElem?_append_left hk] at hf
      obtain ⟨parent, children, hamong, hget⟩ := h.joined hroot k f hf
      obtain ⟨children', hget'⟩ :=
        Topology.exists_get?_insert hlt hget (object view e.directory e.address)
      rw [List.take_append_of_le_length (Nat.le_of_lt hk)]
      exact ⟨parent, children', hamong, hget'⟩
    · have hk' : k = es.length := by
        have hlast := (List.getElem?_eq_some_iff.mp hf).1
        rw [List.length_append, List.length_singleton] at hlast
        omega
      subst hk'
      rw [List.getElem?_concat_length, Option.some.injEq] at hf
      subst hf
      have hnew : (⟨start.size + es.length⟩ : ObjectId) = state.1.nextId :=
        congrArg ObjectId.mk h.size.symm
      rw [List.take_left, Scan.addEntry, Topology.get?_insert _ _ _ hlt, if_pos hnew]
      exact ⟨_, [], hparent, rfl⟩

/-- What all entries add, in the order in which they are added. -/
theorem foldl_addEntry (view : View) (start : Topology) (es : List Entry) :
    Filled view start es (es.foldl (Scan.addEntry view) (start, [])) := by
  induction es using List.reverseRecOn with
  | nil => exact .nil
  | append_singleton es e ih =>
    rw [List.foldl_concat]
    exact ih.addEntry e

/-- The object that is added for an entry is at its address. -/
theorem isNewAt (h : Filled view start es state) (hroot : 0 < start.size) {k : Nat} {e : Entry}
    (hk : es[k]? = some e) : IsNewAt start state.1 e.address ⟨start.size + k⟩ := by
  obtain ⟨parent, children, -, hget⟩ := h.joined hroot k e hk
  refine ⟨Nat.le_add_right _ _, ?_⟩
  rw [Topology.IsAt, Topology.address?, hget]
  rfl

/-- The object that is added for an entry is below a new one at the address that the entry is
behind, or below the root if there was none yet. -/
theorem parent_cases (h : Filled view start es state) (hroot : 0 < start.size) {k : Nat} {e : Entry}
    (hk : es[k]? = some e) :
    (∃ f ∈ es, e.behind = some f.address ∧ ∃ p, IsNewAt start state.1 f.address p ∧
      state.1.parent? ⟨start.size + k⟩ = some p) ∨
    (∀ f ∈ es.take k, e.behind ≠ some f.address) ∧
      state.1.parent? ⟨start.size + k⟩ = some Topology.root := by
  obtain ⟨parent, children, hamong, hget⟩ := h.joined hroot k e hk
  have hparent : state.1.parent? ⟨start.size + k⟩ = some parent := by
    rw [Topology.parent?, hget]
    rfl
  cases hamong with
  | @behind j f hf hbehind =>
    have hj : es[j]? = some f := by
      rw [List.getElem?_take] at hf
      split at hf
      · exact hf
      · cases hf
    exact .inl ⟨f, List.mem_of_getElem? hj, hbehind, _, h.isNewAt hroot hj, hparent⟩
  | root hnone => exact .inr ⟨hnone, hparent⟩

/-- A new object was added for an entry. -/
theorem exists_entry (h : Filled view start es state) {id : ObjectId} (hle : start.size ≤ id.index)
    (hlt : id.index < state.1.size) :
    ∃ (k : Nat) (e : Entry), es[k]? = some e ∧ id = ⟨start.size + k⟩ := by
  rw [h.size] at hlt
  have hk : id.index - start.size < es.length := by omega
  exact ⟨_, _, List.getElem?_eq_getElem hk,
    congrArg ObjectId.mk (Nat.add_sub_cancel' hle).symm⟩

/-- A new object at an address was added for an entry with that address. -/
theorem exists_entry_of_isNewAt (h : Filled view start es state) (hroot : 0 < start.size)
    {a : Pci.Address} {id : ObjectId} (hnew : IsNewAt start state.1 a id) :
    ∃ (k : Nat) (e : Entry), es[k]? = some e ∧ e.address = a ∧ id = ⟨start.size + k⟩ := by
  obtain ⟨hle, hat⟩ := hnew
  have hlt : id.index < state.1.size := by
    obtain ⟨o, ho, -⟩ := Option.bind_eq_some_iff.mp hat
    exact Topology.lt_size_of_get? ho
  obtain ⟨k, e, hk, rfl⟩ := h.exists_entry hle hlt
  have hat' := (h.isNewAt hroot hk).2
  rw [Topology.IsAt, hat, Option.some.injEq] at hat'
  exact ⟨k, e, hk, hat'.symm, rfl⟩

/-- There are as many addresses as are different. -/
theorem length_added (h : Filled view start es state) :
    state.2.length = (es.map Entry.address).dedup.length := by
  have hperm : state.2.addresses.Perm (es.map Entry.address).dedup := by
    rw [List.perm_ext_iff_of_nodup h.nodup (List.nodup_dedup _)]
    intro a
    rw [h.mem_addresses, List.mem_dedup]
  rw [← hperm.length_eq, Added.addresses, List.length_map]

end Filled

/-- What a scan adds. -/
theorem filled_addEntries (view : View) (t : Topology) (es : List Entry) :
    Filled view t (es.mergeSort Entry.precedes) (addEntries view t es) :=
  .foldl_addEntry view t _

/-- A scan adds one object for each function that is listed, but counts only once those that are
listed under the same address. So it counts what it adds exactly if no two are. -/
theorem scan_counts_addresses {view : View} {listing : Path} {t t' : Topology} {count : Nat}
    (h : scan view listing t = .ok (t', count)) :
    ∃ es, entries view listing = .ok es ∧ t'.size = t.size + es.length ∧
      count = (es.map Entry.address).dedup.length ∧
      (t'.size = t.size + count ↔ (es.map Entry.address).Nodup) := by
  obtain ⟨es, hes, rfl, rfl⟩ := scan_eq_ok_iff.mp h
  have hfilled := filled_addEntries view t es
  have hperm : (es.mergeSort Entry.precedes).Perm es := es.mergeSort_perm Entry.precedes
  have hsize : (addEntries view t es).1.size = t.size + es.length := by
    rw [hfilled.size, hperm.length_eq]
  have hcount : (addEntries view t es).2.length = (es.map Entry.address).dedup.length := by
    rw [hfilled.length_added, (hperm.map Entry.address).dedup.length_eq]
  refine ⟨es, hes, hsize, hcount, ?_⟩
  rw [hsize, hcount, Nat.add_left_cancel_iff, ← List.length_map Entry.address,
    ← List.dedup_eq_self]
  constructor
  · exact fun hlength ↦ (List.dedup_sublist _).eq_of_length hlength.symm
  · exact fun hself ↦ congrArg List.length hself.symm

/-- A host that lists a function twice, once with its domain and once without. -/
def twiceListedHost : FileTree where
  nodes :=
    [([name "devices"], .directory), ([name "devices", name "0000:3a:00.0"], .directory),
      ([name "devices", name "3a:00.0"], .directory)]

/-- The topology of the host that lists a function twice. -/
def twiceListedTopology : Topology where
  objects :=
    let function : Object :=
      { kind := .pciDevice, pci := some { address := ⟨0, 0x3A, 0, 0⟩ }, parent := some ⟨0⟩ }
    [{ kind := .machine, children := [⟨1⟩, ⟨2⟩] }, function, function]

/-- The entries of the host that lists a function twice. -/
def twiceListedEntries : List Entry :=
  [⟨⟨0, 0x3A, 0, 0⟩, [name "devices", name "0000:3a:00.0"], none⟩,
    ⟨⟨0, 0x3A, 0, 0⟩, [name "devices", name "3a:00.0"], none⟩]

private theorem scan_twiceListedHost :
    scan twiceListedHost.view [name "devices"] .bare = .ok (twiceListedTopology, 1) := by
  have hlisted : entries twiceListedHost.view [name "devices"] = .ok twiceListedEntries := rfl
  exact scan_of_sorted .bare hlisted (List.mergeSort_of_pairwise (by decide))

/-- Two objects are added for the function that is listed twice, and one is counted. -/
theorem twice_listed_host_undercounted :
    scan twiceListedHost.view [name "devices"] .bare = .ok (twiceListedTopology, 1) ∧
    twiceListedTopology.size = Topology.bare.size + 2 :=
  ⟨scan_twiceListedHost, rfl⟩

/-- The host that lists a function twice has two entries, with one address. -/
theorem twice_listed_host_addresses :
    ∃ es, entries twiceListedHost.view [name "devices"] = .ok es ∧
      es.map Entry.address = [⟨0, 0x3A, 0, 0⟩, ⟨0, 0x3A, 0, 0⟩] ∧
      twiceListedTopology.size = Topology.bare.size + es.length ∧
      1 = (es.map Entry.address).dedup.length ∧
      (twiceListedTopology.size = Topology.bare.size + 1 ↔ (es.map Entry.address).Nodup) := by
  obtain ⟨es, hes, hrest⟩ := scan_counts_addresses scan_twiceListedHost
  have haddresses : (entries twiceListedHost.view [name "devices"]).map (·.map Entry.address) =
      .ok [⟨0, 0x3A, 0, 0⟩, ⟨0, 0x3A, 0, 0⟩] := rfl
  rw [hes] at haddresses
  exact ⟨es, hes, Except.ok.inj haddresses, hrest⟩

end AcceleratorTopology.Scan
