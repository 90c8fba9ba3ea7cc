/-!
# Binary32 numbers

Link speeds are kept as the 32 bits of a binary floating-point number: a sign, eight bits of
exponent and 23 bits of fraction. Everything here is exact arithmetic on natural numbers:
`nearest` rounds a quotient to the closest representable number, ties going to the even one, and
`hundredths` rounds a number to two decimal places by the same rule.
-/

namespace AcceleratorTopology

/-- A binary floating-point number of 32 bits. -/
structure Binary32 where
  bits : UInt32
  deriving DecidableEq, Repr

namespace Binary32

/-- Zero. -/
def zero : Binary32 := ⟨0⟩

/-- The bits of positive infinity, the greatest of all that are no NaN. -/
def infinityBits : Nat := 0x7F800000

/-- The quotient `num / den` rounded to the closest whole number, a half going to the even one. -/
def roundQuotient (num den : Nat) : Nat :=
  let q := num / den
  let twice := 2 * (num % den)
  if twice < den ∨ (twice = den ∧ q % 2 = 0) then q else q + 1

/-- The greatest `e` with `2 ^ e ≤ num / den`, for positive `num` and `den`. -/
def floorLog2 (num den : Nat) : Int :=
  let guess : Int := (num.log2 : Int) - (den.log2 : Int)
  let fits : Bool :=
    if guess ≥ 0 then den <<< guess.toNat ≤ num else den ≤ num <<< (-guess).toNat
  if fits then guess else guess - 1

/-- The number closest to the quotient `num / den`, ties going to the one with an even fraction.
A quotient beyond the greatest finite number becomes infinity. -/
def nearest (num den : Nat) : Binary32 :=
  if num = 0 ∨ den = 0 then zero
  else
    -- The unit in the last place is `2 ^ unit`; below the least normal number it stays fixed.
    let unit : Int := max (floorLog2 num den - 23) (-149)
    let significand :=
      if unit ≥ 0 then roundQuotient num (den <<< unit.toNat)
      else roundQuotient (num <<< (-unit).toNat) den
    -- A significand of 24 bits carries into the exponent field, which is what rounding up to
    -- the next power of two asks for.
    ⟨UInt32.ofNat (min ((unit + 149).toNat <<< 23 + significand) infinityBits)⟩

/-- The exponent field. -/
def exponentField (x : Binary32) : Nat := x.bits.toNat / 0x800000 % 0x100

/-- The fraction field. -/
def fractionField (x : Binary32) : Nat := x.bits.toNat % 0x800000

/-- Numerator and denominator of the magnitude of a finite number. -/
def magnitude (x : Binary32) : Nat × Nat :=
  if x.exponentField = 0 then (x.fractionField, 1 <<< 149)
  else
    let significand := 0x800000 + x.fractionField
    if x.exponentField ≥ 150 then (significand <<< (x.exponentField - 150), 1)
    else (significand, 1 <<< (150 - x.exponentField))

/-- The number closest to a natural number. -/
def ofNat (n : Nat) : Binary32 := nearest n 1

/-- The number closest to the magnitude of a finite number divided by a natural number. -/
def divNat (x : Binary32) (n : Nat) : Binary32 := nearest x.magnitude.1 (x.magnitude.2 * n)

/-- Whether a number is greater than zero; infinity is, a NaN is not. -/
def isPositive (x : Binary32) : Bool := 0 < x.bits.toNat && x.bits.toNat ≤ infinityBits

/-- The magnitude of a finite number in hundredths, rounded, a half going to the even one. -/
def hundredths (x : Binary32) : Nat := roundQuotient (100 * x.magnitude.1) x.magnitude.2

/-- The decimal text of a positive number with two places. -/
def toFixed2 (x : Binary32) : String :=
  if x.bits.toNat = infinityBits then "inf"
  else
    let h := x.hundredths
    toString (h / 100) ++ "." ++ toString (h / 10 % 10) ++ toString (h % 10)

/-- Rounding a quotient moves it by at most a half. -/
theorem roundQuotient_bounds (num den : Nat) (h : 0 < den) :
    2 * (den * roundQuotient num den) ≤ 2 * num + den ∧
      2 * num ≤ 2 * (den * roundQuotient num den) + den := by
  have hm := Nat.mod_lt num h
  have hd := Nat.div_add_mod num den
  unfold roundQuotient
  simp only
  split
  · omega
  · rw [Nat.mul_add]; omega

/-- One is written with exponent field 127 and no fraction. -/
example : ofNat 1 = ⟨0x3F800000⟩ := by decide

/-- A tie between two representable numbers goes to the even one. -/
example : ofNat 0x1000001 = ofNat 0x1000000 := by decide

/-- An eighth has a tie in its third decimal place, which goes to the even neighbour. -/
example : (nearest 1 8).hundredths = 12 := by decide

end Binary32

end AcceleratorTopology
