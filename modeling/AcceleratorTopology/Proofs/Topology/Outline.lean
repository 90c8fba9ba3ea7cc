import AcceleratorTopology.Proofs.History
import Mathlib.Data.List.Nodup

/-!
# The outline covers the tree

A topology is printed on a walk from the root that follows nothing but the links from objects to
their children. In a tree the walk ends, it comes to every object and to none of them twice, and how
far down it has come is the number of links up to the root.
-/

namespace AcceleratorTopology.Topology

/-- A walk in depth: the objects that are still to be visited, the next one first, and those that
are visited from now on. Visiting an object puts its children before all that waited already. -/
inductive Walk (t : Topology) : List ObjectId → List ObjectId → Prop
  | done : Walk t [] []
  | visit {id : ObjectId} {waiting visited : List ObjectId}
    (h : Walk t (t.childLinks id ++ waiting) visited) : Walk t (id :: waiting) (id :: visited)

/-- There is one way to walk. -/
theorem Walk.unique {t : Topology} {waiting visited visited' : List ObjectId}
    (h : t.Walk waiting visited) (h' : t.Walk waiting visited') : visited = visited' := by
  induction h generalizing visited' with
  | done =>
    cases h'
    rfl
  | visit _ ih =>
    cases h' with
    | visit h' => rw [ih h']

/-- The lines about an object: its header, and then its attributes in order. They are indented by
two columns for each link up to the root, attributes by two more. -/
def linesOf (t : Topology) (id : ObjectId) : List String :=
  match t.get? id with
  | none => []
  | some o =>
    let margin := indentation (t.depth id)
    (margin ++ o.header) :: o.attributes.map fun a ↦ margin ++ "  " ++ a.key ++ " = " ++ a.value

/-- Lines in print, each with its line end. -/
def inPrint (lines : List String) : String := String.join (lines.map (· ++ "\n"))

private theorem inPrint_append (first second : List String) :
    inPrint (first ++ second) = inPrint first ++ inPrint second := by
  rw [inPrint, List.map_append, String.join_append, inPrint, inPrint]

private theorem inPrint_flatMap (lines : ObjectId → List String) (ids : List ObjectId) :
    inPrint (ids.flatMap lines) = String.join (ids.map fun id ↦ inPrint (lines id)) := by
  induction ids with
  | nil => rfl
  | cons id ids ih =>
    rw [List.flatMap_cons, inPrint_append, ih, List.map_cons, String.join_cons]

private theorem block_eq_inPrint {t : Topology} {id : ObjectId} {o : Object}
    (ho : t.get? id = some o) : o.block (t.depth id) = inPrint (t.linesOf id) := by
  rw [linesOf, ho, inPrint, List.map_cons, String.join_cons, List.map_map]
  rfl

/-- The objects at and below an object, each before those below it. -/
def preorder (t : Topology) (id : ObjectId) : List ObjectId :=
  id :: (t.childrenOf id).attach.flatMap fun c ↦ t.preorder c.1
termination_by t.size - id.index
decreasing_by
  have := lt_of_mem_childrenOf c.2
  omega

namespace IsTree

variable {t : Topology}

private theorem induction_up (ht : t.IsTree) {motive : ObjectId → Prop}
    (above : ∀ id, (∀ c ∈ t.childLinks id, motive c) → motive id) (id : ObjectId) : motive id := by
  induction hn : t.size - id.index using Nat.strongRecOn generalizing id with
  | ind n ih =>
    apply above
    intro c hc
    rw [← ht.childrenOf_eq] at hc
    have hlater := lt_of_mem_childrenOf hc
    exact ih (t.size - c.index) (by omega) c rfl

/-- An object comes first, and then its children with all that is below them. -/
theorem preorder_eq (ht : t.IsTree) (id : ObjectId) :
    t.preorder id = id :: (t.childLinks id).flatMap t.preorder := by
  rw [preorder, ← ht.childrenOf_eq, List.flatMap_subtype fun _ _ ↦ rfl, List.unattach_attach]

private theorem outlineFrom_eq (ht : t.IsTree) {id : ObjectId} {o : Object}
    (ho : t.get? id = some o) (depth : Nat) :
    t.outlineFrom id depth =
      o.block depth ++
        String.join ((t.childLinks id).map fun c ↦ t.outlineFrom c (depth + 1)) := by
  rw [outlineFrom, ← ht.childrenOf_eq]
  simp only [ho]
  rw [← List.attach_map_subtype_val (t.childrenOf id), List.map_map, List.attach_map_subtype_val]
  rfl

private theorem depth_child (ht : t.IsTree) {id c : ObjectId} (hc : c ∈ t.childLinks id) :
    c.index < t.size ∧ t.depth c = t.depth id + 1 := by
  have hparent := (ht.mem_children id c).mp hc
  rw [← ht.childrenOf_eq] at hc
  obtain ⟨hlater, hthere⟩ := lt_of_mem_childrenOf hc
  exact ⟨hthere, depth_of_parent? hparent hlater⟩

private theorem outlineFrom_depth (ht : t.IsTree) (id : ObjectId) (hid : id.index < t.size) :
    t.outlineFrom id (t.depth id) = inPrint ((t.preorder id).flatMap t.linesOf) := by
  induction id using ht.induction_up with
  | above id ih =>
    obtain ⟨o, ho⟩ : ∃ o, t.get? id = some o := ⟨_, List.getElem?_eq_getElem hid⟩
    have hchildren : ((t.childLinks id).map fun c ↦ t.outlineFrom c (t.depth id + 1)) =
        (t.childLinks id).map fun c ↦ inPrint ((t.preorder c).flatMap t.linesOf) := by
      refine List.map_congr_left fun c hc ↦ ?_
      obtain ⟨hthere, hdepth⟩ := ht.depth_child hc
      rw [← hdepth, ih c hc hthere]
    rw [ht.outlineFrom_eq ho, hchildren, block_eq_inPrint ho, ht.preorder_eq, List.flatMap_cons,
      inPrint_append, List.flatMap_assoc, inPrint_flatMap]

/-- Whoever waits, the objects at and below the next object are visited first. -/
theorem walk_preorder (ht : t.IsTree) (id : ObjectId) {waiting visited : List ObjectId}
    (hrest : t.Walk waiting visited) : t.Walk (id :: waiting) (t.preorder id ++ visited) := by
  induction id using ht.induction_up generalizing waiting visited with
  | above id ih =>
    rw [ht.preorder_eq, List.cons_append]
    apply Walk.visit
    generalize t.childLinks id = children at ih
    induction children with
    | nil => exact hrest
    | cons c children ihc =>
      rw [List.flatMap_cons, List.append_assoc]
      apply ih c List.mem_cons_self
      exact ihc fun d hd _ _ ↦ ih d (List.mem_cons_of_mem c hd)

private theorem lt_size_of_mem_preorder (ht : t.IsTree) {id c : ObjectId} (hid : id.index < t.size)
    (hc : c ∈ t.preorder id) : c.index < t.size := by
  induction id using ht.induction_up with
  | above id ih =>
    rw [ht.preorder_eq, List.mem_cons, List.mem_flatMap] at hc
    rcases hc with rfl | ⟨d, hd, hc⟩
    · exact hid
    · exact ih d hd (ht.depth_child hd).1 hc

private theorem child_mem_preorder (ht : t.IsTree) {id p c : ObjectId} (hc : c ∈ t.childLinks p)
    (hp : p ∈ t.preorder id) : c ∈ t.preorder id := by
  induction id using ht.induction_up with
  | above id ih =>
    rw [ht.preorder_eq, List.mem_cons, List.mem_flatMap] at hp ⊢
    right
    rcases hp with rfl | ⟨d, hd, hp⟩
    · refine ⟨c, hc, ?_⟩
      rw [ht.preorder_eq]
      exact List.mem_cons_self
    · exact ⟨d, hd, ih d hd hp⟩

/-- All objects of a tree are at or below the root. -/
theorem mem_preorder_root (ht : t.IsTree) {id : ObjectId} :
    id ∈ t.preorder root ↔ id.index < t.size := by
  constructor
  · exact ht.lt_size_of_mem_preorder ht.size_pos
  · intro hid
    refine ht.induction_down (motive := fun id ↦ id ∈ t.preorder root) ?_ ?_ id hid
    · rw [ht.preorder_eq]
      exact List.mem_cons_self
    · intro id p hp _ hmem
      exact ht.child_mem_preorder ((ht.mem_children p id).mpr hp) hmem

private theorem exists_pathTo_of_mem_preorder (ht : t.IsTree) {id c : ObjectId}
    {path : List ObjectId} (hpath : t.PathTo path id) (hc : c ∈ t.preorder id) :
    ∃ rest, t.PathTo (path ++ rest) c := by
  induction id using ht.induction_up generalizing path with
  | above id ih =>
    rw [ht.preorder_eq, List.mem_cons, List.mem_flatMap] at hc
    rcases hc with rfl | ⟨d, hd, hc⟩
    · exact ⟨[], by rwa [List.append_nil]⟩
    · obtain ⟨rest, hrest⟩ := ih d hd (hpath.child hd) hc
      rw [List.append_assoc] at hrest
      exact ⟨d :: rest, hrest⟩

end IsTree

/-- No object is twice at or below another: what is below two children would be at the end of two
paths. -/
theorem IsOrderedTree.nodup_preorder {t : Topology} (ht : t.IsOrderedTree) {id : ObjectId}
    {path : List ObjectId} (hpath : t.PathTo path id) : (t.preorder id).Nodup := by
  induction id using ht.toIsTree.induction_up generalizing path with
  | above id ih =>
    have hbelow {d c : ObjectId} (hd : d ∈ t.childLinks id) (hc : c ∈ t.preorder d) :
        ∃ rest, t.PathTo (path ++ d :: rest) c := by
      obtain ⟨rest, hrest⟩ := ht.exists_pathTo_of_mem_preorder (hpath.child hd) hc
      rw [List.append_assoc] at hrest
      exact ⟨rest, hrest⟩
    rw [ht.preorder_eq, List.nodup_cons, List.nodup_flatMap]
    refine ⟨fun hmem ↦ ?_, fun d hd ↦ ih d hd (hpath.child hd), ?_⟩
    · obtain ⟨d, hd, hid⟩ := List.mem_flatMap.mp hmem
      obtain ⟨rest, hrest⟩ := hbelow hd hid
      exact List.cons_ne_nil d rest (List.self_eq_append_right.mp (ht.eq_of_pathTo hpath hrest))
    · refine (ht.ascending id).imp_of_mem fun {d e} hd he hlt c hcd hce ↦ ?_
      obtain ⟨rest, hrest⟩ := hbelow hd hcd
      obtain ⟨rest', hrest'⟩ := hbelow he hce
      have hsame := List.append_cancel_left (ht.eq_of_pathTo hrest hrest')
      exact absurd (List.cons.inj hsame).1 (ne_of_apply_ne ObjectId.index (Nat.ne_of_lt hlt))

/-- Whatever its history, a topology in print is the lines about its objects in the order of the
walk from the root. There is one such walk: it ends, and it visits every object once. -/
theorem outline_covers_tree {t : Topology} (h : Reachable t) :
    ∃ ids, (∀ visited, t.Walk [root] visited ↔ visited = ids) ∧ ids.Perm t.ids ∧
      t.outline = inPrint (ids.flatMap t.linesOf) := by
  have ht := h.isOrderedTree
  have hwalk := ht.walk_preorder root .done
  rw [List.append_nil] at hwalk
  refine ⟨t.preorder root, fun visited ↦ ⟨fun hv ↦ hv.unique hwalk, fun hv ↦ hv ▸ hwalk⟩, ?_, ?_⟩
  · apply (List.perm_ext_iff_of_nodup (ht.nodup_preorder .root) t.nodup_ids).mpr
    intro id
    rw [ht.mem_preorder_root, mem_ids]
  · have hdepth : t.depth root = 0 := depth_of_parent?_eq_none ht.parent_root
    rw [outline, ← hdepth, ht.outlineFrom_depth root ht.size_pos]

/-- A machine with two bridges, and a card that joined last, below the first bridge. -/
def branchedHost : Topology :=
  ((bare.insert root { kind := .bridge }).insert root { kind := .bridge }).insert ⟨1⟩
    { kind := .osDevice, name := some "card", attributes := [⟨"Backend", "LevelZero"⟩] }

/-- The card is printed right after the bridge that it is below. -/
theorem branched_host_covered :
    Reachable branchedHost ∧
    ∃ ids, (∀ visited, branchedHost.Walk [root] visited ↔ visited = ids) ∧
      ids.Perm branchedHost.ids ∧
      branchedHost.outline = inPrint (ids.flatMap branchedHost.linesOf) ∧
      ids = [⟨0⟩, ⟨1⟩, ⟨3⟩, ⟨2⟩] ∧
      ids.flatMap branchedHost.linesOf =
        ["Machine", "  PCIBridge", "    CoProc \"card\"", "      Backend = LevelZero",
          "  PCIBridge"] := by
  have hbridges : Reachable ((bare.insert root { kind := .bridge }).insert root
      { kind := .bridge }) :=
    .tail (.single (.insert (by decide) _)) (.insert (by decide) _)
  have hreach : Reachable branchedHost := hbridges.tail (.insert (by decide) _)
  have hwalk : branchedHost.Walk [root] [⟨0⟩, ⟨1⟩, ⟨3⟩, ⟨2⟩] :=
    .visit (.visit (.visit (.visit .done)))
  obtain ⟨ids, hids, hperm, hprint⟩ := outline_covers_tree hreach
  have heq := (hids _).mp hwalk
  refine ⟨hreach, ids, hids, hperm, hprint, heq.symm, ?_⟩
  rw [← heq]
  decide +kernel

end AcceleratorTopology.Topology
