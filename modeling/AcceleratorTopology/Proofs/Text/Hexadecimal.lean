import AcceleratorTopology.Text.Numeral
import Mathlib.Data.List.Forall2
import Mathlib.Data.Nat.Digits.Defs

/-!
# Hexadecimal numerals

Which texts are hexadecimal numerals, and of which numbers: one or more digits of either case,
perhaps after a plus sign. The numerals of 32-bit numbers are read, and no other texts; zeros in
front make no difference. What is written for a number is a numeral of that number.
-/

namespace AcceleratorTopology.Text

/-- A character is the hexadecimal digit with a value, in lower or in upper case. -/
def IsHexDigit (c : Char) (d : Nat) : Prop :=
  "0123456789abcdef".toList[d]? = some c ∨ "0123456789ABCDEF".toList[d]? = some c

instance (c : Char) (d : Nat) : Decidable (IsHexDigit c d) := inferInstanceAs (Decidable (_ ∨ _))

/-- One or more digits spell a number, the most significant one first. -/
def SpellsHex (cs : List Char) (n : Nat) : Prop :=
  ∃ ds, List.Forall₂ IsHexDigit cs ds ∧ ds ≠ [] ∧ Nat.ofDigits 16 ds.reverse = n

/-- A text is a hexadecimal numeral of a number: digits that spell it, perhaps after a plus sign. -/
inductive IsHexNumeral : List Char → Nat → Prop
  | plain {cs : List Char} {n : Nat} (h : SpellsHex cs n) : IsHexNumeral cs n
  | plus {cs : List Char} {n : Nat} (h : SpellsHex cs n) : IsHexNumeral ('+' :: cs) n

section Digits

variable {c : Char} {cs : List Char} {d n : Nat} {ds : List Nat}

/-- What is read as a digit comes before the letter `g`. -/
theorem toNat_lt_of_hexDigit? (h : hexDigit? c = some d) : c.toNat < 'g'.toNat := by
  have hle : c ≤ 'f' := by
    unfold hexDigit? at h
    split at h
    · next hdigit => exact Char.le_trans hdigit.2 (by decide)
    · split at h
      · next hlower => exact hlower.2
      · split at h
        · next hupper => exact Char.le_trans hupper.2 (by decide)
        · cases h
  have hnat : c.toNat ≤ 'f'.toNat := hle
  exact Nat.lt_of_le_of_lt hnat (by decide)

/-- Digits are read with their values. -/
theorem hexDigit?_eq_some_iff : hexDigit? c = some d ↔ IsHexDigit c d := by
  constructor
  · intro h
    have hall : ∀ k : Fin 'g'.toNat,
        (hexDigit? (Char.ofNat k)).all fun d ↦ decide (IsHexDigit (Char.ofNat k) d) := by decide
    have hc := hall ⟨c.toNat, toNat_lt_of_hexDigit? h⟩
    dsimp only at hc
    rw [Char.ofNat_toNat, h] at hc
    exact of_decide_eq_true hc
  · have hlower : ∀ k : Fin 16, hexDigit? "0123456789abcdef".toList[k] = some k.val := by decide
    have hupper : ∀ k : Fin 16, hexDigit? "0123456789ABCDEF".toList[k] = some k.val := by decide
    rintro (h | h)
    · obtain ⟨hd, rfl⟩ := List.getElem?_eq_some_iff.mp h
      exact hlower ⟨d, hd⟩
    · obtain ⟨hd, rfl⟩ := List.getElem?_eq_some_iff.mp h
      exact hupper ⟨d, hd⟩

private theorem mapM_hexDigit?_eq_some_iff :
    cs.mapM hexDigit? = some ds ↔ List.Forall₂ IsHexDigit cs ds := by
  induction cs generalizing ds with
  | nil => simp [eq_comm]
  | cons c cs ih =>
    simp only [List.mapM_cons, Option.bind_eq_bind, Option.bind_eq_some_iff, Option.pure_def,
      Option.some.injEq, hexDigit?_eq_some_iff, ih, List.forall₂_cons_left_iff, exists_and_left]
    simp only [eq_comm]

/-- Taking on digit after digit comes to the number that they spell. -/
theorem foldl_eq_ofDigits (base : Nat) (ds : List Nat) :
    ds.foldl (fun n d ↦ base * n + d) 0 = Nat.ofDigits base ds.reverse := by
  rw [Nat.ofDigits_eq_foldr, List.foldr_reverse]
  simp [Nat.add_comm]

/-- A run of digits is read as the number that it spells. -/
theorem hexNatural?_eq_some_iff : hexNatural? cs = some n ↔ SpellsHex cs n := by
  cases cs with
  | nil => simp [hexNatural?, SpellsHex]
  | cons c cs =>
    simp only [hexNatural?, List.isEmpty_cons, Bool.false_eq_true, if_false, Option.map_eq_some_iff,
      mapM_hexDigit?_eq_some_iff, foldl_eq_ofDigits, SpellsHex]
    constructor
    · rintro ⟨ds, hds, hn⟩
      exact ⟨ds, hds, fun he ↦ by simp [he] at hds, hn⟩
    · rintro ⟨ds, hds, -, hn⟩
      exact ⟨ds, hds, hn⟩

private theorem not_spellsHex_plus : ¬SpellsHex ('+' :: cs) n := by
  rintro ⟨ds, hds, -, -⟩
  obtain ⟨d, rest, hplus, -, -⟩ := List.forall₂_cons_left_iff.mp hds
  have hnone : hexDigit? '+' = none := by decide
  rw [hexDigit?_eq_some_iff.mpr hplus] at hnone
  cases hnone

private theorem hexNatural?_dropPlus_eq_some_iff :
    hexNatural? (dropPlus cs) = some n ↔ IsHexNumeral cs n := by
  rw [hexNatural?_eq_some_iff]
  constructor
  · intro h
    unfold dropPlus at h
    split at h
    · exact .plus h
    · exact .plain h
  · intro h
    cases h with
    | plus h => exact h
    | plain h =>
      unfold dropPlus
      split
      · exact absurd h not_spellsHex_plus
      · exact h

/-- Numerals of 32-bit numbers are read, and nothing else is. -/
theorem hexadecimal?_eq_some_iff {v : UInt32} :
    hexadecimal? cs = some v ↔ IsHexNumeral cs v.toNat := by
  rw [← hexNatural?_dropPlus_eq_some_iff, hexadecimal?]
  cases hexNatural? (dropPlus cs) with
  | none => simp
  | some n =>
    simp only [Option.bind_eq_bind, Option.bind_some, Option.some.injEq]
    constructor
    · intro h
      split at h
      · next hn =>
        cases h
        exact (UInt32.toNat_ofNat_of_lt hn).symm
      · cases h
    · rintro rfl
      rw [if_pos v.toNat_lt, UInt32.ofNat_toNat]

/-- Numerals consist of digits, perhaps with a plus sign. -/
theorem IsHexNumeral.notMem (h : IsHexNumeral cs n) (hdigit : hexDigit? c = none)
    (hplus : c ≠ '+') : c ∉ cs := by
  have hspells {cs : List Char} (h : SpellsHex cs n) : c ∉ cs := by
    obtain ⟨ds, hds, -, -⟩ := h
    intro hc
    obtain ⟨i, hi, rfl⟩ := List.mem_iff_getElem.mp hc
    have hd := (List.forall₂_iff_get.mp hds).2 i hi (hds.length_eq ▸ hi)
    rw [List.get_eq_getElem] at hd
    rw [hexDigit?_eq_some_iff.mpr hd] at hdigit
    cases hdigit
  cases h with
  | plain h => exact hspells h
  | plus h => exact List.not_mem_cons_of_ne_of_not_mem hplus (hspells h)

/-- Zeros in front make no difference. -/
theorem SpellsHex.replicate_append (k : Nat) (h : SpellsHex cs n) :
    SpellsHex (List.replicate k '0' ++ cs) n := by
  obtain ⟨ds, hds, hne, hn⟩ := h
  refine ⟨List.replicate k 0 ++ ds, List.rel_append ?_ hds, by simp [hne], ?_⟩
  · exact List.forall₂_iff_get.mpr ⟨by simp, fun i _ _ ↦ by simp; decide⟩
  · rw [List.reverse_append, List.reverse_replicate, Nat.ofDigits_append_replicate_zero, hn]

/-- What is written for a number is a numeral of the number, whatever the width. -/
theorem isHexNumeral_hexPadded (width n : Nat) : IsHexNumeral (hexPadded width n) n :=
  .plain ((hexNatural?_eq_some_iff.mp (hexNatural?_hexDigits n)).replicate_append _)

end Digits

end AcceleratorTopology.Text
