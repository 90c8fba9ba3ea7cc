import AcceleratorTopology.Text.Numeral
import Mathlib.Data.List.TakeDrop
import Mathlib.Data.List.TakeWhile

/-!
# Splitting at a character

What a text is split into at a character: parts that do not contain the character, and from which
the text is put together again. This determines the parts.
-/

namespace AcceleratorTopology.Text

variable {c : Char} {cs front back : List Char} {parts : List (List Char)}

/-- A text is split at a character after which that does not occur. -/
theorem splitLast?_append (front : List Char) (h : c ∉ back) :
    splitLast? c (front ++ c :: back) = some (front, back) := by
  have hback : ∀ x ∈ back.reverse, (x != c) = true := by
    intro x hx
    exact bne_iff_ne.mpr fun he ↦ h (he ▸ List.mem_reverse.mp hx)
  have hspan : (back.reverse ++ c :: front.reverse).span (· != c) =
      (back.reverse, c :: front.reverse) := by
    rw [List.span_eq_takeWhile_dropWhile, List.takeWhile_append_of_pos hback,
      List.dropWhile_append_of_pos hback]
    simp
  rw [splitLast?, List.reverse_append, List.reverse_cons, List.append_assoc, List.singleton_append,
    hspan]
  simp

/-- A text is not split at a character that does not occur. -/
theorem splitLast?_eq_none (h : c ∉ cs) : splitLast? c cs = none := by
  have hall : ∀ x ∈ cs.reverse, (x != c) = true := by
    intro x hx
    exact bne_iff_ne.mpr fun he ↦ h (he ▸ List.mem_reverse.mp hx)
  have hspan : cs.reverse.span (· != c) = (cs.reverse, []) := by
    rw [List.span_eq_takeWhile_dropWhile, List.takeWhile_eq_self_iff.mpr hall,
      List.dropWhile_eq_nil_iff.mpr hall]
  rw [splitLast?, hspan]

/-- A text is split at the last occurrence of a character. -/
theorem splitLast?_eq_some_iff :
    splitLast? c cs = some (front, back) ↔ cs = front ++ c :: back ∧ c ∉ back := by
  constructor
  · intro h
    by_cases hmem : c ∈ cs
    · obtain ⟨after, before, hsplit, hafter⟩ :=
        List.eq_append_cons_of_mem (List.mem_reverse.mpr hmem)
      have hcs : cs = before.reverse ++ c :: after.reverse := by
        rw [← List.reverse_reverse cs, hsplit, List.reverse_append, List.reverse_cons,
          List.append_assoc, List.singleton_append]
      have hlast : c ∉ after.reverse := fun hc ↦ hafter (List.mem_reverse.mp hc)
      rw [hcs, splitLast?_append _ hlast] at h
      obtain ⟨rfl, rfl⟩ := Prod.mk.inj (Option.some.inj h)
      exact ⟨hcs, hlast⟩
    · rw [splitLast?_eq_none hmem] at h
      cases h
  · rintro ⟨rfl, hback⟩
    exact splitLast?_append front hback

/-- Splitting at every occurrence is that of lists. -/
theorem splitEach_eq_splitOn (c : Char) (cs : List Char) : splitEach c cs = cs.splitOn c := by
  induction cs with
  | nil => rfl
  | cons x xs ih =>
    rw [splitEach, List.splitOn_cons_eq_if_modifyHead, ih]
    simp only [beq_iff_eq]
    split
    · rfl
    · cases h : List.splitOn c xs with
      | nil => exact absurd h (List.splitOn_ne_nil c xs)
      | cons part parts => rfl

private theorem notMem_of_mem_splitEach {part : List Char} (h : part ∈ splitEach c cs) :
    c ∉ part := by
  induction cs generalizing part with
  | nil =>
    cases List.mem_singleton.mp h
    exact List.not_mem_nil
  | cons x xs ih =>
    rw [splitEach] at h
    split at h
    · cases List.mem_cons.mp h with
      | inl he => exact he ▸ List.not_mem_nil
      | inr hm => exact ih hm
    · next hx =>
      -- The first part has one more character, which is another one.
      split at h
      · cases List.mem_singleton.mp h
        exact fun hc ↦ hx (List.mem_singleton.mp hc).symm
      · next first rest hsplit =>
        rw [hsplit] at ih
        cases List.mem_cons.mp h with
        | inl he =>
          rw [he, List.mem_cons, not_or]
          exact ⟨fun hc ↦ hx hc.symm, ih List.mem_cons_self⟩
        | inr hm => exact ih (List.mem_cons_of_mem _ hm)

/-- A text is split into parts without the character that give the text when they are joined by
it. -/
theorem splitEach_eq_iff : splitEach c cs = parts ↔
    parts ≠ [] ∧ (∀ part ∈ parts, c ∉ part) ∧ [c].intercalate parts = cs := by
  constructor
  · rintro rfl
    refine ⟨?_, fun part ↦ notMem_of_mem_splitEach, ?_⟩
    · exact splitEach_eq_splitOn c cs ▸ List.splitOn_ne_nil c cs
    · exact splitEach_eq_splitOn c cs ▸ List.intercalate_splitOn c
  · rintro ⟨hne, hparts, rfl⟩
    rw [splitEach_eq_splitOn, List.splitOn_intercalate c hparts hne]

end AcceleratorTopology.Text
