import AcceleratorTopology.Proofs.Scan.Additions
import AcceleratorTopology.Proofs.Topology.Joining
import AcceleratorTopology.Scan.InPlace

/-!
# What a scan leaves alone

A scan reads its listing to the end before the first object joins. So a listing that breaks off,
at its start or on the way, leaves the topology as it was, and nothing else makes a scan fail. One
that succeeds puts new objects below the root and below each other, and changes nothing else.
-/

namespace AcceleratorTopology

namespace Files

/-- A listing that breaks off: it cannot be opened, or fails after some names. -/
inductive BreaksOff : Except FileError (List (Except FileError Name)) → FileError → Prop
  | opening (e : FileError) : BreaksOff (.error e) e
  | underway (names : List Name) (e : FileError) (rest : List (Except FileError Name)) :
    BreaksOff (.ok (names.map .ok ++ .error e :: rest)) e

/-- A listing can be read to its end, or it breaks off. -/
theorem complete_or_breaksOff (listed : Except FileError (List (Except FileError Name))) :
    (∃ names : List Name, listed = .ok (names.map .ok)) ∨ ∃ e, BreaksOff listed e := by
  cases listed with
  | error e => exact .inr ⟨e, .opening e⟩
  | ok entries =>
    induction entries with
    | nil => exact .inl ⟨[], rfl⟩
    | cons entry entries ih =>
      cases entry with
      | error e => exact .inr ⟨e, .underway [] e entries⟩
      | ok name =>
        obtain ⟨names, h⟩ | ⟨e, h⟩ := ih
        · rw [Except.ok.inj h]
          exact .inl ⟨name :: names, rfl⟩
        · cases h with
          | underway names e rest => exact .inr ⟨e, .underway (name :: names) e rest⟩

end Files

namespace Topology

/-- A topology that has become another one by objects that join below the root or below each other.
New objects follow all that were there, the root has those right below it as further children, in
the order in which they joined, and all else is as it was. -/
structure ExtendedTo (t t' : Topology) : Prop where
  retentions : t'.retentions = t.retentions
  size_le : t.size ≤ t'.size
  kept : ∀ id, id.index < t.size → id ≠ root → t'.get? id = t.get? id
  root_adopts : ∃ joined, t'.get? root = (t.get? root).map (·.adopt joined) ∧
    joined.Pairwise (fun a b ↦ a.index < b.index) ∧
    ∀ c, c ∈ joined ↔ t.size ≤ c.index ∧ t'.parent? c = some root
  new_below : ∀ c, t.size ≤ c.index → c.index < t'.size →
    ∃ p, t'.parent? c = some p ∧ (p = root ∨ t.size ≤ p.index ∧ p.index < c.index)

namespace ExtendedTo

variable {t t' : Topology}

/-- At first nothing has joined. -/
theorem refl (t : Topology) : t.ExtendedTo t where
  retentions := rfl
  size_le := Nat.le_refl _
  kept _ _ _ := rfl
  root_adopts := by
    refine ⟨[], ?_, List.Pairwise.nil, fun c ↦ ?_⟩
    · rw [funext Object.adopt_nil, Option.map_id']
    · refine ⟨nofun, fun ⟨hle, hparent⟩ ↦ ?_⟩
      exact absurd (lt_size_of_parent? hparent) (Nat.not_lt.mpr hle)
  new_below _ hle hlt := absurd hlt (Nat.not_lt.mpr hle)

private theorem root_adopts_insert (h : t.ExtendedTo t') (hroot : 0 < t.size) {parent : ObjectId}
    (hthere : parent.index < t'.size) (o : Object) :
    ∃ joined, (t'.insert parent o).get? root = (t.get? root).map (·.adopt joined) ∧
      joined.Pairwise (fun a b ↦ a.index < b.index) ∧
      ∀ c, c ∈ joined ↔ t.size ≤ c.index ∧ (t'.insert parent o).parent? c = some root := by
  obtain ⟨joined, hget, hascending, hmem⟩ := h.root_adopts
  have hnext : root ≠ t'.nextId := ne_nextId (Nat.lt_of_lt_of_le hroot h.size_le)
  have hold {c : ObjectId} (hc : c ∈ joined) : c.index < t'.size :=
    lt_size_of_parent? ((hmem c).mp hc).2
  have hnew : t'.nextId ∉ joined := fun hc ↦ Nat.lt_irrefl _ (hold hc)
  by_cases hp : parent = root
  · subst hp
    refine ⟨joined ++ [t'.nextId], ?_, ?_, fun c ↦ ?_⟩
    · rw [get?_insert _ _ _ hthere, if_neg hnext, if_pos rfl, hget, Option.map_map]
      exact congrArg (Option.map · _) (funext fun o ↦ o.adopt_adopt joined [t'.nextId])
    · refine List.pairwise_append.mpr
        ⟨hascending, List.pairwise_singleton _ _, fun c hc d hd ↦ ?_⟩
      exact List.mem_singleton.mp hd ▸ hold hc
    · rw [List.mem_append, List.mem_singleton, parent?_insert t' c o hthere]
      by_cases hc : c = t'.nextId
      · rw [if_pos hc, hc]
        exact ⟨fun _ ↦ ⟨h.size_le, rfl⟩, fun _ ↦ .inr rfl⟩
      · rw [if_neg hc, or_iff_left hc, hmem]
  · refine ⟨joined, ?_, hascending, fun c ↦ ?_⟩
    · rw [get?_insert _ _ _ hthere, if_neg hnext, if_neg (Ne.symm hp), hget]
    · rw [parent?_insert t' c o hthere]
      by_cases hc : c = t'.nextId
      · rw [if_pos hc, hc]
        exact ⟨fun hm ↦ absurd hm hnew, fun he ↦ absurd (Option.some.inj he.2) hp⟩
      · rw [if_neg hc, hmem]

/-- One more object joins, below the root or below one that has joined before. -/
theorem insert (h : t.ExtendedTo t') (hroot : 0 < t.size) {parent : ObjectId}
    (hparent : parent = root ∨ t.size ≤ parent.index ∧ parent.index < t'.size) (o : Object) :
    t.ExtendedTo (t'.insert parent o) := by
  have hthere : parent.index < t'.size := by
    obtain rfl | ⟨-, hlt⟩ := hparent
    · exact Nat.lt_of_lt_of_le hroot h.size_le
    · exact hlt
  constructor
  case retentions => exact h.retentions
  case size_le =>
    rw [size_insert]
    exact Nat.le_succ_of_le h.size_le
  case kept =>
    intro id hid hne
    have hparent' : id ≠ parent := by
      rintro rfl
      obtain rfl | ⟨hle, -⟩ := hparent
      · exact hne rfl
      · exact Nat.not_lt.mpr hle hid
    have hnext : id ≠ t'.nextId := ne_nextId (Nat.lt_of_lt_of_le hid h.size_le)
    rw [get?_insert _ _ _ hthere, if_neg hnext, if_neg hparent', h.kept id hid hne]
  case root_adopts => exact h.root_adopts_insert hroot hthere o
  case new_below =>
    intro c hle hlt
    rw [parent?_insert t' c o hthere]
    by_cases hc : c = t'.nextId
    · rw [if_pos hc, hc]
      exact ⟨parent, rfl, hparent⟩
    · have hlt' : c.index < t'.size := by
        have hne : c.index ≠ t'.size := fun he ↦ hc (congrArg ObjectId.mk he)
        rw [size_insert] at hlt
        omega
      rw [if_neg hc]
      exact h.new_below c hle hlt'

end ExtendedTo

end Topology

namespace Scan

open Files Vendor

section InPlace

variable {view : View} {listing : Path} {names : List Name} {e : FileError}

private theorem entries_of_breaksOff (h : BreaksOff (view.list listing) e) :
    entries view listing = .error e := by
  rw [entries]
  generalize view.list listing = listed at h
  cases h with
  | opening e => rfl
  | underway names e rest =>
    have hbroken : (names.map Except.ok ++ Except.error e :: rest).mapM id =
        (Except.error e : Except FileError (List Name)) := by
      induction names with
      | nil => rfl
      | cons name names ih =>
        rw [List.map_cons, List.cons_append, List.mapM_cons, ih]
        rfl
    change (names.map Except.ok ++ Except.error e :: rest).mapM id >>= _ = _
    rw [hbroken]
    rfl

private theorem on_gather_names (names : List Name) (es : List Entry) (t : Topology) :
    InPlace.on ((names.map .ok).foldlM (gatherEntry view listing) es) t =
      (.ok (es ++ names.filterMap (entryNamed? view listing)), t) := by
  induction names generalizing es with
  | nil =>
    rw [List.filterMap_nil, List.append_nil]
    rfl
  | cons name names ih =>
    rw [List.map_cons, List.foldlM_cons,
      InPlace.on_bind_of_ok (on_gatherEntry_ok view listing es name t), ih, List.append_assoc]
    cases h : entryNamed? view listing name with
    | none => rw [List.filterMap_cons_none h]; rfl
    | some e => rw [List.filterMap_cons_some h]; rfl

private theorem on_joinEntries (es : List Entry) (added : Added) (t : Topology) :
    InPlace.on (es.foldlM (joinEntry view) added) t =
      (.ok (es.foldl (addEntry view) (t, added)).2, (es.foldl (addEntry view) (t, added)).1) := by
  induction es generalizing added t with
  | nil => rfl
  | cons e es ih =>
    rw [List.foldlM_cons, InPlace.on_bind_of_ok (on_joinEntry view added e t), ih]
    rfl

private theorem on_scanInPlace_of_names (h : view.list listing = .ok (names.map .ok))
    (t : Topology) :
    (scanInPlace view listing).on t =
      (.ok (addEntries view t (names.filterMap (entryNamed? view listing))).2.length,
        (addEntries view t (names.filterMap (entryNamed? view listing))).1) := by
  rw [scanInPlace, h]
  dsimp only
  rw [InPlace.on_bind_of_ok (on_gather_names names [] t), List.nil_append,
    InPlace.on_bind_of_ok (on_joinEntries _ [] t)]
  rfl

private theorem on_scanInPlace_of_breaksOff (h : BreaksOff (view.list listing) e) (t : Topology) :
    (scanInPlace view listing).on t = (.error (.system e.message), t) := by
  rw [scanInPlace]
  generalize view.list listing = listed at h
  cases h with
  | opening e => rfl
  | underway names e rest =>
    apply InPlace.on_bind_of_error
    rw [List.foldlM_append, InPlace.on_bind_of_ok (on_gather_names names [] t)]
    exact InPlace.on_bind_of_error rfl

/-- A scan in place comes to what a scan comes to, and leaves the topology that this gives, or else
the one that was there. -/
theorem on_scanInPlace (view : View) (listing : Path) (t : Topology) :
    (scanInPlace view listing).on t =
      match scan view listing t with
      | .error fault => (.error fault, t)
      | .ok (t', count) => (.ok count, t') := by
  obtain ⟨names, h⟩ | ⟨e, h⟩ := complete_or_breaksOff (view.list listing)
  · rw [on_scanInPlace_of_names h, scan, entries_of_names h]
  · rw [on_scanInPlace_of_breaksOff h, scan, entries_of_breaksOff h]

/-- A fault ends a scan exactly if the listing breaks off, and then the topology is as it was. -/
theorem on_scanInPlace_eq_error_iff {fault : Fault} {t t' : Topology} :
    (scanInPlace view listing).on t = (.error fault, t') ↔
      t' = t ∧ ∃ e, BreaksOff (view.list listing) e ∧ fault = .system e.message := by
  constructor
  · intro h
    obtain ⟨names, hlist⟩ | ⟨e, hbreaks⟩ := complete_or_breaksOff (view.list listing)
    · rw [on_scanInPlace_of_names hlist] at h
      cases h
    · rw [on_scanInPlace_of_breaksOff hbreaks] at h
      cases h
      exact ⟨rfl, e, hbreaks, rfl⟩
  · rintro ⟨rfl, e, hbreaks, rfl⟩
    exact on_scanInPlace_of_breaksOff hbreaks t'

private theorem eq_addEntries_of_on_scanInPlace {count : Nat} {t t' : Topology}
    (h : (scanInPlace view listing).on t = (.ok count, t')) :
    ∃ names : List Name, view.list listing = .ok (names.map .ok) ∧
      t' = (addEntries view t (names.filterMap (entryNamed? view listing))).1 := by
  obtain ⟨names, hlist⟩ | ⟨e, hbreaks⟩ := complete_or_breaksOff (view.list listing)
  · rw [on_scanInPlace_of_names hlist] at h
    cases h
    exact ⟨names, hlist, rfl⟩
  · rw [on_scanInPlace_of_breaksOff hbreaks] at h
    cases h

end InPlace

private theorem size_addEntries (view : View) (t : Topology) (es : List Entry) :
    (addEntries view t es).1.size = t.size + es.length := by
  rw [(filled_addEntries view t es).size, List.length_mergeSort]

private theorem extendedTo_foldl_addEntry (view : View) {t : Topology} (hroot : 0 < t.size)
    (es : List Entry) : t.ExtendedTo (es.foldl (addEntry view) (t, [])).1 := by
  induction es using List.reverseRecOn with
  | nil => exact .refl t
  | append_singleton es e ih =>
    have hfilled := Filled.foldl_addEntry view t es
    rw [List.foldl_concat]
    refine ih.insert hroot ?_ _
    have hamong := hfilled.parentAmong e
    rw [hfilled.size]
    generalize parentOf (es.foldl (addEntry view) (t, [])).2 e = parent at hamong
    cases hamong with
    | behind hf hbehind =>
      have hk := (List.getElem?_eq_some_iff.mp hf).1
      exact .inr ⟨Nat.le_add_right _ _, Nat.add_lt_add_left hk _⟩
    | root hnone => exact .inl rfl

/-- A scan in place comes to what a scan comes to. One that a fault ends leaves the topology as it
was, whatever had been listed by then; and there is a fault exactly if the listing breaks off. A
listing that can be read to its end is scanned, whatever its names are, lead to or have for
properties. Then the topology is extended by as many objects as there are names that spell an
address and lead somewhere. -/
theorem scan_leaves_alone (view : View) (listing : Path) {t : Topology} (hroot : 0 < t.size) :
    ((scanInPlace view listing).on t =
      match scan view listing t with
      | .error fault => (.error fault, t)
      | .ok (t', count) => (.ok count, t')) ∧
    (∀ fault t', (scanInPlace view listing).on t = (.error fault, t') ↔
      t' = t ∧ ∃ e, BreaksOff (view.list listing) e ∧ fault = .system e.message) ∧
    (∀ names : List Name, view.list listing = .ok (names.map .ok) →
      ∃ count t', (scanInPlace view listing).on t = (.ok count, t') ∧
        t'.size = t.size + (names.filterMap (entryNamed? view listing)).length) ∧
    ∀ count t', (scanInPlace view listing).on t = (.ok count, t') → t.ExtendedTo t' := by
  refine ⟨on_scanInPlace view listing t, fun _ _ ↦ on_scanInPlace_eq_error_iff,
    fun names hlist ↦ ?_, fun count t' h ↦ ?_⟩
  · refine ⟨_, _, on_scanInPlace_of_names hlist t, ?_⟩
    rw [size_addEntries]
  · obtain ⟨names, -, rfl⟩ := eq_addEntries_of_on_scanInPlace h
    exact extendedTo_foldl_addEntry view hroot _

/-- The host with a bridge, where reading the listing fails after its first name. -/
def brokenView : View where
  list path :=
    if path = [name "devices"] then
      .ok [.ok (name "0000:01:00.0"), .error (.other "Input/output error (os error 5)")]
    else nestedHost.view.list path
  resolve := nestedHost.view.resolve
  read := nestedHost.view.read

/-- The host with a bridge is scanned once more, on the topology that a scan has given already. A
listing that breaks off or is not there leaves this as it was. -/
theorem nested_host_left_alone :
    0 < nestedTopology.size ∧
    (scanInPlace brokenView [name "devices"]).on nestedTopology =
      (.error (.system "Input/output error (os error 5)"), nestedTopology) ∧
    (scanInPlace nestedHost.view [name "absent"]).on nestedTopology =
      (.error (.system "No such file or directory (os error 2)"), nestedTopology) ∧
    ∃ count t', (scanInPlace nestedHost.view [name "devices"]).on nestedTopology = (.ok count, t') ∧
      t'.size = 5 ∧ nestedTopology.ExtendedTo t' := by
  have hroot : 0 < nestedTopology.size := by decide
  have hbroken := (scan_leaves_alone brokenView [name "devices"] hroot).2
  have habsent := (scan_leaves_alone nestedHost.view [name "absent"] hroot).2
  have hnested := (scan_leaves_alone nestedHost.view [name "devices"] hroot).2
  have hbreaks : BreaksOff (brokenView.list [name "devices"])
      (.other "Input/output error (os error 5)") := .underway [name "0000:01:00.0"] _ []
  have hmissing : nestedHost.view.list [name "absent"] = .error .notFound := rfl
  have hlist : nestedHost.view.list [name "devices"] =
      .ok ([name "0000:01:00.0", name "0000:00:01.0"].map .ok) := rfl
  obtain ⟨count, t', hon, hsize⟩ := hnested.2.1 _ hlist
  refine ⟨hroot, (hbroken.1 _ _).mpr ⟨rfl, _, hbreaks, rfl⟩,
    (habsent.1 _ _).mpr ⟨rfl, .notFound, hmissing ▸ .opening _, rfl⟩,
    count, t', hon, ?_, hnested.2.2 count t' hon⟩
  rw [hsize]
  rfl

end Scan

end AcceleratorTopology
