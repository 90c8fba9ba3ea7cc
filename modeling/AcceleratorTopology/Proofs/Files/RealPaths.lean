import AcceleratorTopology.Files.FileTree

/-!
# Real paths

A real path goes down from the root through directories to a file or a directory, by way of no
link. Every path that leads anywhere leads to a real one, and a real path leads to itself, as do the
directories that it goes through.
-/

namespace AcceleratorTopology.Files

/-- Where a path leads in a view is where that place itself leads, and the same holds of every
directory on the way there. -/
def View.LeadsToReal (view : View) : Prop :=
  ∀ path real, view.resolve path = .ok real → ∀ q, q <+: real → view.resolve q = .ok q

namespace FileTree

variable {tree : FileTree} {start real : Path} {name : Name} {links : Nat}

/-- A path down from the root through directories, by names of their own and no link. -/
inductive IsReal (tree : FileTree) : Path → Prop
  | root : IsReal tree []
  | step {start : Path} {name : Name} {node : FileNode} (h : IsReal tree start)
    (hdirectory : tree.node? start = some .directory) (hhere : isHere name = false)
    (habove : name ≠ above) (hnode : tree.node? (start ++ [name]) = some node)
    (hlink : ∀ target, node ≠ .link target) : IsReal tree (start ++ [name])

/-- A real path goes through real paths. -/
theorem IsReal.of_append {rest : Path} (h : tree.IsReal (start ++ rest)) : tree.IsReal start := by
  generalize hpath : start ++ rest = path at h
  induction h generalizing rest with
  | root => exact (List.append_eq_nil_iff.mp hpath).1 ▸ .root
  | step hbefore hdirectory hhere habove hnode hlink ih =>
    rcases rest.eq_nil_or_concat with rfl | ⟨rest, last, rfl⟩
    · rw [List.append_nil] at hpath
      exact hpath ▸ .step hbefore hdirectory hhere habove hnode hlink
    · rw [List.concat_eq_append, ← List.append_assoc] at hpath
      exact ih (List.append_inj_left' hpath rfl)

private theorem IsReal.last (h : tree.IsReal (start ++ [name])) :
    tree.node? start = some .directory ∧ isHere name = false ∧ name ≠ above ∧
      ∃ node, tree.node? (start ++ [name]) = some node ∧ ∀ target, node ≠ .link target := by
  generalize hpath : start ++ [name] = path at h
  cases h with
  | root => simp at hpath
  | step _ hdirectory hhere habove hnode hlink =>
    obtain ⟨rfl, hname⟩ := List.append_inj' hpath rfl
    cases hname
    exact ⟨hdirectory, hhere, habove, _, hnode, hlink⟩

section WalkTo

variable {follow : Path → Except FileError Path} {todo : Path}

private theorem isReal_of_walkTo (hfollow : ∀ path, follow path = .ok real → tree.IsReal real)
    (hstart : tree.IsReal start) (h : tree.walkTo follow start todo = .ok real) :
    tree.IsReal real := by
  fun_induction FileTree.walkTo tree follow start todo with
  | case1 => cases h; exact hstart
  | case2 => cases h
  | case3 start name rest hdirectory hhere ih => exact ih hstart h
  | case4 start rest hdirectory hhere ih =>
    refine ih ?_ h
    rcases start.eq_nil_or_concat with rfl | ⟨before, last, rfl⟩
    · exact .root
    · rw [List.concat_eq_append] at hstart ⊢
      rw [List.dropLast_concat]
      exact hstart.of_append
  | case5 => cases h
  | case6 start name rest hdirectory hhere habove target hnode => exact hfollow _ h
  | case7 start name rest hdirectory hhere habove node hlink hnode ih =>
    refine ih (.step hstart ?_ ?_ habove hnode hlink) h
    · exact Decidable.not_not.mp hdirectory
    · exact Bool.eq_false_iff.mpr hhere

private theorem walkTo_cons {node : FileNode} (hdirectory : tree.node? start = some .directory)
    (hhere : isHere name = false) (habove : name ≠ above)
    (hnode : tree.node? (start ++ [name]) = some node) (hlink : ∀ target, node ≠ .link target) :
    tree.walkTo follow start (name :: todo) = tree.walkTo follow (start ++ [name]) todo := by
  rw [walkTo, if_neg (fun hne ↦ hne hdirectory), if_neg (Bool.eq_false_iff.mp hhere),
    if_neg habove, hnode]
  cases node with
  | link target => exact absurd rfl (hlink target)
  | directory => rfl
  | file content => rfl

end WalkTo

private theorem exists_walk_eq (tree : FileTree) (links : Nat) :
    ∃ follow, tree.walk links = tree.walkTo follow := by
  cases links with
  | zero => exact ⟨_, rfl⟩
  | succ fewer => exact ⟨_, rfl⟩

private theorem walk_nil : tree.walk links start [] = .ok start := by
  cases links <;> rfl

/-- A walk from a real path ends at a real path. -/
theorem isReal_of_walk {todo : Path} (hstart : tree.IsReal start)
    (h : tree.walk links start todo = .ok real) : tree.IsReal real := by
  induction links generalizing start todo with
  | zero => exact isReal_of_walkTo (fun _ hnone ↦ by cases hnone) hstart h
  | succ fewer ih => exact isReal_of_walkTo (fun _ hfewer ↦ ih .root hfewer) hstart h

/-- Real paths lead through directories. -/
theorem IsReal.directory_of_append {rest : Path} (h : tree.IsReal (start ++ name :: rest)) :
    tree.node? start = some .directory := by
  rw [List.append_cons] at h
  exact h.of_append.last.1

/-- A walk along a real path comes to where the path leads, and goes on from there. -/
theorem walk_append_of_isReal {way rest : Path} (h : tree.IsReal (start ++ way)) :
    tree.walk links start (way ++ rest) = tree.walk links (start ++ way) rest := by
  obtain ⟨follow, hwalk⟩ := tree.exists_walk_eq links
  rw [hwalk]
  induction way generalizing start with
  | nil => rw [List.nil_append, List.append_nil]
  | cons name way ih =>
    rw [List.append_cons] at h
    obtain ⟨hdirectory, hhere, habove, node, hnode, hlink⟩ := h.of_append.last
    rw [List.cons_append, List.append_cons start name way,
      walkTo_cons hdirectory hhere habove hnode hlink]
    exact ih h

/-- A walk along a real path ends where the path does. -/
theorem walk_of_isReal {todo : Path} (h : tree.IsReal (start ++ todo)) :
    tree.walk links start todo = .ok (start ++ todo) := by
  have hwalk : tree.walk links start (todo ++ []) = tree.walk links (start ++ todo) [] :=
    walk_append_of_isReal h
  rw [List.append_nil, walk_nil] at hwalk
  exact hwalk

/-- The paths at which there are files and directories, below the root. -/
def places (tree : FileTree) : List Path :=
  tree.nodes.filterMap fun entry ↦
    match entry.2 with
    | .link _ => none
    | _ => some entry.1

/-- A path that leads to itself is the root or one at which there is something. -/
theorem mem_places_of_resolve {path : Path} (h : tree.resolve path = .ok path) :
    path = [] ∨ path ∈ tree.places := by
  have hpath : tree.IsReal path := isReal_of_walk .root h
  rcases path.eq_nil_or_concat with rfl | ⟨start, name, rfl⟩
  · exact .inl rfl
  · rw [List.concat_eq_append] at hpath ⊢
    obtain ⟨-, -, -, node, hnode, hlink⟩ := hpath.last
    rw [node?, if_neg (by simp), List.lookup_eq_some_iff] at hnode
    obtain ⟨before, after, hnodes, -⟩ := hnode
    refine .inr (List.mem_filterMap.mpr ⟨(start ++ [name], node), ?_, ?_⟩)
    · rw [hnodes]
      exact List.mem_append_right before List.mem_cons_self
    · cases node with
      | link target => exact absurd rfl (hlink target)
      | directory => rfl
      | file content => rfl

/-- A real path with a directory at its end. -/
def IsDirectory (tree : FileTree) (path : Path) : Prop :=
  tree.IsReal path ∧ tree.node? path = some .directory

/-- If a real path leads on, there is a directory at its end. -/
theorem IsReal.isDirectory_of_list {entries : List (Except FileError Name)} (h : tree.IsReal start)
    (hlist : tree.list (start ++ [name]) = .ok entries) : tree.IsDirectory start := by
  refine ⟨h, Decidable.byContradiction fun hne ↦ ?_⟩
  have hway : tree.IsReal ([] ++ start) := h
  have hwalk : tree.walk linkLimit [] (start ++ [name]) = tree.walk linkLimit start [name] :=
    walk_append_of_isReal hway
  obtain ⟨follow, heq⟩ := tree.exists_walk_eq linkLimit
  rw [list, resolve, hwalk, heq, walkTo, if_pos hne] at hlist
  cases hlist

/-- A directory leads to itself. -/
theorem IsDirectory.resolve_eq {path : Path} (h : tree.IsDirectory path) :
    tree.resolve path = .ok path := by
  have hpath : tree.IsReal ([] ++ path) := h.1
  exact walk_of_isReal hpath

/-- In a file tree every path leads to a real one, if anywhere. -/
theorem leadsToReal_view (tree : FileTree) : tree.view.LeadsToReal := by
  rintro path real hreal q ⟨rest, rfl⟩
  have hq : tree.IsReal ([] ++ q) := (isReal_of_walk .root hreal).of_append
  exact walk_of_isReal hq

end FileTree

end AcceleratorTopology.Files
