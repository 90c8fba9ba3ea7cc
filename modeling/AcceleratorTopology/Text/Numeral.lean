import AcceleratorTopology.Text.WhiteSpace

/-!
# Numerals

Reading and writing whole numbers. `leadingInteger` reads the decimal integer at the start of a
text and takes anything else for zero. `hexadecimal?` reads a 32-bit number in base 16 and
accepts nothing else.
-/

namespace AcceleratorTopology.Text

/-- Whether an integer is one of 64 bits in two's complement. -/
def fitsInt64 (n : Int) : Bool := -0x8000000000000000 ≤ n && n < 0x8000000000000000

/-- Takes one sign off the front; true means minus. -/
def takeSign : List Char → Bool × List Char
  | '-' :: rest => (true, rest)
  | '+' :: rest => (false, rest)
  | rest => (false, rest)

/-- The value of the longest run of decimal digits at the front, zero if there is none. -/
def leadingNatural (cs : List Char) : Nat := Nat.ofDigitChars 10 (cs.takeWhile Char.isDigit) 0

/-- The integer at the front of a text, after white space: an optional sign and a run of decimal
digits. A text without such an integer, or with one that needs more than 64 bits, reads as
zero; what follows the digits is ignored. -/
def leadingInteger (s : String) : Int :=
  let signed := takeSign (trimStart s.toList)
  let magnitude : Int := leadingNatural signed.2
  let value := if signed.1 then -magnitude else magnitude
  if fitsInt64 value then value else 0

/-- The value of a hexadecimal digit of either case. -/
def hexDigit? (c : Char) : Option Nat :=
  if '0' ≤ c ∧ c ≤ '9' then some (c.toNat - '0'.toNat)
  else if 'a' ≤ c ∧ c ≤ 'f' then some (c.toNat - 'a'.toNat + 10)
  else if 'A' ≤ c ∧ c ≤ 'F' then some (c.toNat - 'A'.toNat + 10)
  else none

/-- The value of a non-empty run of hexadecimal digits, none if another character occurs. -/
def hexNatural? (cs : List Char) : Option Nat :=
  if cs.isEmpty then none
  else (cs.mapM hexDigit?).map fun digits ↦ digits.foldl (fun n d ↦ 16 * n + d) 0

/-- Takes one plus sign off the front. -/
def dropPlus : List Char → List Char
  | '+' :: rest => rest
  | rest => rest

/-- Reads an optional plus sign and one or more hexadecimal digits whose value is below 2³². -/
def hexadecimal? (cs : List Char) : Option UInt32 := do
  let n ← hexNatural? (dropPlus cs)
  if n < UInt32.size then some (UInt32.ofNat n) else none

/-- The lower-case hexadecimal digits of a number, without leading zeros. -/
def hexDigits (n : Nat) : List Char := Nat.toDigits 16 n

/-- The hexadecimal digits of a number, with zeros in front up to a least width. -/
def hexPadded (width n : Nat) : List Char := (hexDigits n).leftpad width '0'

/-- The hexadecimal text of a number, without leading zeros. -/
def hexText (n : Nat) : String := String.ofList (hexDigits n)

/-- Splits at the last occurrence of a character, none if it does not occur. -/
def splitLast? (c : Char) (cs : List Char) : Option (List Char × List Char) :=
  match cs.reverse.span (· != c) with
  | (_, []) => none
  | (after, _ :: before) => some (before.reverse, after.reverse)

/-- Splits at every occurrence of a character; there is always at least one part. -/
def splitEach (c : Char) : List Char → List (List Char)
  | [] => [[]]
  | x :: xs =>
    if x = c then [] :: splitEach c xs
    else
      match splitEach c xs with
      | [] => [[x]]
      | part :: parts => (x :: part) :: parts

/-- A written digit is read with its value. -/
theorem hexDigit?_digitChar {d : Nat} (h : d < 16) : hexDigit? d.digitChar = some d := by
  have : ∀ d : Fin 16, hexDigit? d.val.digitChar = some d.val := by decide
  exact this ⟨d, h⟩

/-- The written digits of a number are read one by one, and their value is the number. -/
theorem exists_digits_hexDigits (n : Nat) :
    ∃ ds : List Nat, (hexDigits n).mapM hexDigit? = some ds ∧
      ds.foldl (fun v d ↦ 16 * v + d) 0 = n := by
  induction n using Nat.strongRecOn with
  | ind n ih =>
    by_cases h : n < 16
    · exact ⟨[n], by simp [hexDigits, Nat.toDigits_of_lt_base h, hexDigit?_digitChar h], by simp⟩
    · have hn : hexDigits n = hexDigits (n / 16) ++ [(n % 16).digitChar] :=
        Nat.toDigits_of_base_le (by decide) (by omega)
      obtain ⟨ds, hds, hv⟩ := ih (n / 16) (by omega)
      refine ⟨ds ++ [n % 16], ?_, ?_⟩
      · simp [hn, List.mapM_append, hds, hexDigit?_digitChar (Nat.mod_lt n (by decide : 0 < 16))]
      · simp [hv]; omega

/-- A written number is read back. -/
theorem hexNatural?_hexDigits (n : Nat) : hexNatural? (hexDigits n) = some n := by
  obtain ⟨ds, hds, hv⟩ := exists_digits_hexDigits n
  have hne : (hexDigits n).isEmpty = false := by
    simp [hexDigits, Nat.toDigits_ne_nil]
  simp [hexNatural?, hne, hds, hv]

end AcceleratorTopology.Text
