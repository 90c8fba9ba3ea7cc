import Mathlib.Data.List.Basic

/-!
# Lists that grow at the end

Changing one element of a list to which others are appended, and the numbers of elements.
-/

namespace AcceleratorTopology

variable {α : Type}

/-- Changing an early element leaves what is appended alone. -/
theorem modify_append_of_lt {xs : List α} {i : Nat} (h : i < xs.length) (ys : List α) (f : α → α) :
    (xs ++ ys).modify i f = xs.modify i f ++ ys := by
  induction xs generalizing i with
  | nil => exact absurd h (Nat.not_lt_zero i)
  | cons x xs ih =>
    cases i with
    | zero => rfl
    | succ i =>
      have hi : i < xs.length := Nat.lt_of_succ_lt_succ h
      rw [List.cons_append, List.modify_succ_cons, ih hi, List.modify_succ_cons, List.cons_append]

/-- Changing the element right after some others leaves those alone. -/
theorem modify_append_length (xs : List α) (x : α) (f : α → α) :
    (xs ++ [x]).modify xs.length f = xs ++ [f x] :=
  List.modifyTailIdx_add (List.modifyHead f) 0 xs [x]

/-- Numbers in a list go up. -/
theorem pairwise_zipIdx (xs : List α) : xs.zipIdx.Pairwise fun a b ↦ a.2 < b.2 := by
  have h := List.pairwise_lt_range' (s := 0) (n := xs.length)
  rw [← List.zipIdx_map_snd, List.pairwise_map] at h
  exact h

/-- Where positions do not matter, numbered elements do as well as elements. -/
theorem flatMap_zipIdx_fst {β : Type} (f : α → List β) (xs : List α) :
    (xs.zipIdx.flatMap fun numbered ↦ f numbered.1) = xs.flatMap f := by
  have hfst : (xs.zipIdx.map Prod.fst).flatMap f = xs.flatMap f := by
    rw [List.zipIdx_map_fst]
  rwa [List.flatMap_map] at hfst

/-- Of lists that are left out but for one, that one is left. -/
theorem flatten_mapIdx_ite (xss : List (List α)) (k : Nat) :
    (xss.mapIdx fun i xs ↦ if i = k then xs else []).flatten = xss[k]?.getD [] := by
  induction xss generalizing k with
  | nil => rfl
  | cons xs xss ih =>
    rw [List.mapIdx_cons, List.flatten_cons]
    cases k with
    | zero => simp
    | succ k => simpa using ih k

end AcceleratorTopology
