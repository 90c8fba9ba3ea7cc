import Mathlib.Data.List.Basic

/-!
# Decimal numerals

Numbers in decimal can be told apart, and there is nothing but digits in them. Hence two of them
with another character in between can be told apart as well.
-/

namespace AcceleratorTopology.Text

/-- The characters of a number in decimal are its digits. -/
theorem toList_toString (n : Nat) : (toString n).toList = Nat.toDigits 10 n := by
  rw [Nat.toString_eq_repr, Nat.toList_repr]

/-- Different numbers are written differently. -/
theorem toString_injective : Function.Injective (toString : Nat → String) := by
  intro a b h
  have hdigits : Nat.toDigits 10 a = Nat.toDigits 10 b := by
    rw [← toList_toString, h, toList_toString]
  calc
    a = Nat.ofDigitChars 10 (Nat.toDigits 10 a) 0 := Nat.ofDigitChars_ten_toDigits.symm
    _ = Nat.ofDigitChars 10 (Nat.toDigits 10 b) 0 := by rw [hdigits]
    _ = b := Nat.ofDigitChars_ten_toDigits

/-- A character that is no digit is in no number. -/
theorem notMem_toString {c : Char} (hc : c.isDigit = false) (n : Nat) :
    c ∉ (toString n).toList := by
  rw [toList_toString]
  intro hmem
  have hdigit : c.isDigit = true := Nat.isDigit_of_mem_toDigits (by decide) (by decide) hmem
  rw [hc] at hdigit
  cases hdigit

/-- Two numbers with a character in between that is no digit are told apart from any others. -/
theorem toString_append_inj {c : Char} (hc : c.isDigit = false) {a b k l : Nat}
    (h : (toString a).toList ++ c :: (toString k).toList =
      (toString b).toList ++ c :: (toString l).toList) : a = b ∧ k = l := by
  obtain ⟨hfront, -, hback⟩ :=
    (List.append_cons_inj_of_notMem (notMem_toString hc a) (notMem_toString hc k)).mp h
  exact ⟨toString_injective (String.toList_injective hfront),
    toString_injective (String.toList_injective hback)⟩

end AcceleratorTopology.Text
