import AcceleratorTopology.Text.Numeral

/-!
# PCI addresses

The place of a function on the PCI bus, written `domain:bus:device.function` in hexadecimal. The
domain may be left out when reading; it is always written. Every 32-bit field is accepted, also
beyond the width to which it is padded.
-/

namespace AcceleratorTopology.Pci

open Text

/-- The place of a function on the PCI bus. -/
structure Address where
  domain : UInt32 := 0
  bus : UInt32 := 0
  device : UInt32 := 0
  function : UInt32 := 0
  deriving DecidableEq, Repr, Inhabited

namespace Address

/-- The position of an address when addresses are ordered by domain, then bus, then device, then
function. -/
def rank (a : Address) : Nat :=
  ((a.domain.toNat * UInt32.size + a.bus.toNat) * UInt32.size + a.device.toNat) * UInt32.size +
    a.function.toNat

/-- Addresses are ordered by their rank. -/
instance : Ord Address := ⟨fun a b ↦ compare a.rank b.rank⟩

/-- The characters of the written form. -/
def chars (a : Address) : List Char :=
  hexPadded 4 a.domain.toNat ++ ':' :: hexPadded 2 a.bus.toNat ++ ':' ::
    hexPadded 2 a.device.toNat ++ '.' :: hexPadded 1 a.function.toNat

/-- The written form, such as `0000:3a:00.0`. -/
def text (a : Address) : String := String.ofList a.chars

instance : ToString Address := ⟨text⟩

/-- The fields in front of the function: a bus and a device, or a domain before them. -/
def ofFields? (parts : List (List Char)) (function : List Char) : Option Address :=
  match parts with
  | [bus, device] => do
    return ⟨0, ← hexadecimal? bus, ← hexadecimal? device, ← hexadecimal? function⟩
  | [domain, bus, device] => do
    return ⟨← hexadecimal? domain, ← hexadecimal? bus, ← hexadecimal? device,
      ← hexadecimal? function⟩
  | _ => none

/-- Reads the written form. The function follows the last period. -/
def parse? (s : String) : Option Address := do
  let (front, function) ← splitLast? '.' s.toList
  ofFields? (splitEach ':' front) function

/-- The domain is written even if it is zero. -/
example : (⟨0, 0x3A, 0, 1⟩ : Address).chars = "0000:3a:00.1".toList := by decide

/-- The rank tells addresses apart. -/
theorem rank_injective {a b : Address} (h : a.rank = b.rank) : a = b := by
  obtain ⟨d, u, v, f⟩ := a
  obtain ⟨d', u', v', f'⟩ := b
  simp only [rank, UInt32.size] at h
  have := d.toNat_lt; have := u.toNat_lt; have := v.toNat_lt; have := f.toNat_lt
  have := d'.toNat_lt; have := u'.toNat_lt; have := v'.toNat_lt; have := f'.toNat_lt
  simp only [mk.injEq, ← UInt32.toNat_inj]
  omega

end Address

/-- The buses below a bridge. -/
structure BusRange where
  domain : UInt32 := 0
  secondary : UInt32 := 0
  subordinate : UInt32 := 0
  deriving DecidableEq, Repr, Inhabited

/-- Whether an address lies on one of the buses, both ends included. -/
def BusRange.contains (r : BusRange) (a : Address) : Bool :=
  r.domain == a.domain && r.secondary ≤ a.bus && a.bus ≤ r.subordinate

end AcceleratorTopology.Pci
