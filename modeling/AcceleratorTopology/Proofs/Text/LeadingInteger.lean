import AcceleratorTopology.Proofs.Text.Decimal
import AcceleratorTopology.Proofs.Text.Hexadecimal
import Mathlib.Data.List.TakeWhile

/-!
# The integer at the front of a text

Every text starts with an integer: white space, perhaps a sign, and a run of decimal digits, each
taking all that it can, and then a rest. This integer may be of any size; it is zero if there are no
digits. What is read is this integer if it needs no more than 64 bits, and zero otherwise. So the
rest has no part in what is read, and a number that is written is read back whatever follows it,
unless that is another digit.
-/

namespace AcceleratorTopology.Text

/-- A character is the decimal digit with a value. -/
def IsDecimalDigit (c : Char) (d : Nat) : Prop := "0123456789".toList[d]? = some c

instance (c : Char) (d : Nat) : Decidable (IsDecimalDigit c d) :=
  inferInstanceAs (Decidable (_ = _))

/-- Decimal digits spell a number, the most significant one first; no digits spell zero. -/
def SpellsDecimal (cs : List Char) (n : Nat) : Prop :=
  ∃ ds, List.Forall₂ IsDecimalDigit cs ds ∧ Nat.ofDigits 10 ds.reverse = n

/-- What stands in front of the digits of an integer. -/
inductive Sign where
  | none
  | plus
  | minus
  deriving DecidableEq, Repr

namespace Sign

/-- How a sign is written. -/
def chars : Sign → List Char
  | none => []
  | plus => ['+']
  | minus => ['-']

/-- The integer with a sign and a magnitude. -/
def apply : Sign → Nat → Int
  | minus, n => -n
  | _, n => n

end Sign

/-- A text starts with an integer: white space, a sign or none, digits that spell the magnitude, and
a rest. The digits go as far as they can; where there is neither sign nor digit, this is because the
text has none after its white space. -/
structure StartsWith (cs blank : List Char) (sign : Sign) (digits : List Char) (magnitude : Nat)
    (rest : List Char) : Prop where
  parts : cs = blank ++ (sign.chars ++ (digits ++ rest))
  blanks : ∀ c ∈ blank, isWhiteSpace c = true
  spelt : SpellsDecimal digits magnitude
  ends : ∀ c, rest.head? = some c → c.isDigit = false
  bare : sign = .none → digits = [] → ∀ c, rest.head? = some c →
    isWhiteSpace c = false ∧ c ≠ '+' ∧ c ≠ '-'

/-- The integer with which a text starts. -/
def LeadingNumber (cs : List Char) (n : Int) : Prop :=
  ∃ blank sign digits magnitude rest,
    StartsWith cs blank sign digits magnitude rest ∧ n = sign.apply magnitude

/-- An integer is one of 64 bits in two's complement. -/
def Fits64 (n : Int) : Prop := -2 ^ 63 ≤ n ∧ n ≤ 2 ^ 63 - 1

instance (n : Int) : Decidable (Fits64 n) := inferInstanceAs (Decidable (_ ∧ _))

/-- Which integers are of 64 bits. -/
theorem fitsInt64_iff {n : Int} : fitsInt64 n = true ↔ Fits64 n := by
  simp only [fitsInt64, Fits64, Bool.and_eq_true, decide_eq_true_eq]
  omega

section Digits

variable {c : Char} {cs : List Char} {d n : Nat}

private theorem exists_of_isDigit (h : c.isDigit = true) :
    ∃ k : Fin 10, "0123456789".toList[k] = c := by
  have hall : ∀ n : Fin ':'.toNat, (Char.ofNat n).isDigit = true →
      ∃ k : Fin 10, "0123456789".toList[k] = Char.ofNat n := by decide
  have hlt : c.toNat < ':'.toNat := by
    simp only [Char.isDigit, Bool.and_eq_true, decide_eq_true_eq] at h
    have hle : c.toNat ≤ '9'.toNat := h.2
    exact Nat.lt_of_le_of_lt hle (by decide)
  have hc := hall ⟨c.toNat, hlt⟩
  dsimp only at hc
  rw [Char.ofNat_toNat] at hc
  exact hc h

private theorem isDigit_ne (h : c.isDigit = true) : isWhiteSpace c = false ∧ c ≠ '+' ∧ c ≠ '-' := by
  obtain ⟨k, rfl⟩ := exists_of_isDigit h
  revert k
  decide

/-- The decimal digits and their values. -/
theorem isDecimalDigit_iff : IsDecimalDigit c d ↔ c.isDigit = true ∧ c.toNat - '0'.toNat = d := by
  have hall : ∀ k : Fin 10, let c := "0123456789".toList[k]
    c.isDigit = true ∧ c.toNat - '0'.toNat = k := by decide
  constructor
  · intro h
    obtain ⟨hd, rfl⟩ := List.getElem?_eq_some_iff.mp h
    exact hall ⟨d, hd⟩
  · rintro ⟨hdigit, rfl⟩
    obtain ⟨k, rfl⟩ := exists_of_isDigit hdigit
    rw [(hall k).2]
    exact List.getElem?_eq_getElem _

private theorem forall₂_isDecimalDigit_iff {ds : List Nat} : List.Forall₂ IsDecimalDigit cs ds ↔
    (∀ c ∈ cs, c.isDigit = true) ∧ cs.map (fun c ↦ c.toNat - '0'.toNat) = ds := by
  induction cs generalizing ds with
  | nil =>
    rw [List.forall₂_nil_left_iff, List.map_nil]
    exact ⟨fun h ↦ ⟨nofun, h.symm⟩, fun h ↦ h.2.symm⟩
  | cons c cs ih =>
    rw [List.forall₂_cons_left_iff]
    simp only [isDecimalDigit_iff, ih, List.forall_mem_cons, List.map_cons]
    constructor
    · rintro ⟨d, ds, ⟨hc, rfl⟩, ⟨hcs, rfl⟩, rfl⟩
      exact ⟨⟨hc, hcs⟩, rfl⟩
    · rintro ⟨⟨hc, hcs⟩, rfl⟩
      exact ⟨_, _, ⟨hc, rfl⟩, ⟨hcs, rfl⟩, rfl⟩

/-- Taking on digit after digit comes to the number that they spell. -/
theorem spellsDecimal_iff :
    SpellsDecimal cs n ↔ (∀ c ∈ cs, c.isDigit = true) ∧ Nat.ofDigitChars 10 cs 0 = n := by
  have hvalue : Nat.ofDigitChars 10 cs 0 =
      Nat.ofDigits 10 (cs.map fun c ↦ c.toNat - '0'.toNat).reverse := by
    rw [← foldl_eq_ofDigits, List.foldl_map]
    rfl
  rw [hvalue]
  constructor
  · rintro ⟨ds, hds, hn⟩
    obtain ⟨hdigits, rfl⟩ := forall₂_isDecimalDigit_iff.mp hds
    exact ⟨hdigits, hn⟩
  · rintro ⟨hdigits, hn⟩
    exact ⟨_, forall₂_isDecimalDigit_iff.mpr ⟨hdigits, rfl⟩, hn⟩

end Digits

section Runs

variable {α : Type} {p : α → Bool} {run rest : List α} (hrun : ∀ a ∈ run, p a = true)
  (hstop : ∀ a, rest.head? = some a → p a = false)
include hrun hstop

private theorem takeWhile_append_of_stop : (run ++ rest).takeWhile p = run := by
  have hrest : rest.takeWhile p = [] := by
    cases rest with
    | nil => rfl
    | cons a rest => rw [List.takeWhile_cons, hstop a rfl, if_neg Bool.false_ne_true]
  rw [List.takeWhile_append_of_pos hrun, hrest, List.append_nil]

/-- A run is dropped up to where it ends. -/
theorem dropWhile_append_of_stop : (run ++ rest).dropWhile p = rest := by
  rw [List.dropWhile_append_of_pos hrun]
  cases rest with
  | nil => rfl
  | cons a rest => rw [List.dropWhile_cons, hstop a rfl, if_neg Bool.false_ne_true]

end Runs

namespace StartsWith

variable {cs blank digits rest : List Char} {sign : Sign} {magnitude : Nat}
  (h : StartsWith cs blank sign digits magnitude rest)
include h

private theorem head?_of_unsigned (hsign : sign = .none) {c : Char}
    (hc : (digits ++ rest).head? = some c) : isWhiteSpace c = false ∧ c ≠ '+' ∧ c ≠ '-' := by
  cases hdigits : digits with
  | nil =>
    rw [hdigits, List.nil_append] at hc
    exact h.bare hsign hdigits c hc
  | cons d tail =>
    rw [hdigits] at hc
    cases hc
    refine isDigit_ne ((spellsDecimal_iff.mp h.spelt).1 c ?_)
    rw [hdigits]
    exact List.mem_cons_self

private theorem trimStart_eq : trimStart cs = sign.chars ++ (digits ++ rest) := by
  rw [trimStart, h.parts]
  refine dropWhile_append_of_stop h.blanks fun c hc ↦ ?_
  cases hsign : sign with
  | none =>
    rw [hsign] at hc
    exact (h.head?_of_unsigned hsign hc).1
  | plus | minus =>
    rw [hsign] at hc
    cases hc
    decide

private theorem takeSign_eq :
    takeSign (trimStart cs) = (decide (sign = .minus), digits ++ rest) := by
  rw [h.trimStart_eq]
  cases hsign : sign with
  | none =>
    change takeSign (digits ++ rest) = (false, digits ++ rest)
    unfold takeSign
    split
    · next heq => exact absurd rfl (h.head?_of_unsigned hsign (heq ▸ rfl)).2.2
    · next heq => exact absurd rfl (h.head?_of_unsigned hsign (heq ▸ rfl)).2.1
    · rfl
  | plus => rfl
  | minus => rfl

private theorem leadingNatural_eq : leadingNatural (digits ++ rest) = magnitude := by
  obtain ⟨hdigits, hvalue⟩ := spellsDecimal_iff.mp h.spelt
  rw [leadingNatural, takeWhile_append_of_stop hdigits h.ends, hvalue]

private theorem apply_eq : sign.apply magnitude =
    let signed := takeSign (trimStart cs)
    if signed.1 then -(leadingNatural signed.2 : Int) else leadingNatural signed.2 := by
  rw [h.takeSign_eq]
  dsimp only
  rw [h.leadingNatural_eq]
  cases sign <;> rfl

private theorem leadingInteger_eq {s : String} (hs : s.toList = cs) :
    leadingInteger s = if Fits64 (sign.apply magnitude) then sign.apply magnitude else 0 := by
  have hvalue : leadingInteger s =
      if fitsInt64 (sign.apply magnitude) then sign.apply magnitude else 0 := by
    rw [h.apply_eq, ← hs]
    rfl
  rw [hvalue]
  exact if_congr fitsInt64_iff rfl rfl

end StartsWith

/-- Every text starts with an integer. -/
theorem exists_startsWith (cs : List Char) : ∃ blank sign digits magnitude rest,
    StartsWith cs blank sign digits magnitude rest := by
  have hsplit (sign : Sign) (body : List Char) (htrim : trimStart cs = sign.chars ++ body)
      (hbare : sign = .none → ∀ c, body.head? = some c →
        isWhiteSpace c = false ∧ c ≠ '+' ∧ c ≠ '-') :
      StartsWith cs (cs.takeWhile isWhiteSpace) sign (body.takeWhile Char.isDigit)
        (Nat.ofDigitChars 10 (body.takeWhile Char.isDigit) 0) (body.dropWhile Char.isDigit) := by
    refine ⟨?_, fun c ↦ List.mem_takeWhile_imp, ?_, ?_, ?_⟩
    · rw [List.takeWhile_append_dropWhile, ← htrim, trimStart, List.takeWhile_append_dropWhile]
    · exact spellsDecimal_iff.mpr ⟨fun c ↦ List.mem_takeWhile_imp, rfl⟩
    · intro c hc
      have hd := List.head?_dropWhile_not Char.isDigit body
      rwa [hc] at hd
    · intro hsign hnone c hc
      have hbody : body.dropWhile Char.isDigit = body := by
        have hall := List.takeWhile_append_dropWhile (p := Char.isDigit) (l := body)
        rwa [hnone, List.nil_append] at hall
      rw [hbody] at hc
      exact hbare hsign c hc
  cases htrim : trimStart cs with
  | nil =>
    refine ⟨_, _, _, _, _, hsplit .none [] htrim fun _ c hc ↦ ?_⟩
    cases hc
  | cons c body =>
    by_cases hplus : c = '+'
    · refine ⟨_, _, _, _, _, hsplit .plus body (by rw [htrim, hplus]; rfl) fun hsign ↦ ?_⟩
      cases hsign
    · by_cases hminus : c = '-'
      · refine ⟨_, _, _, _, _, hsplit .minus body (by rw [htrim, hminus]; rfl) fun hsign ↦ ?_⟩
        cases hsign
      · refine ⟨_, _, _, _, _, hsplit .none (c :: body) htrim fun _ x hx ↦ ?_⟩
        cases hx
        exact ⟨head?_trimStart cs (by rw [htrim]; rfl), hplus, hminus⟩

/-- The integer with which a text starts is the only one. -/
theorem LeadingNumber.unique {cs : List Char} {n m : Int} (hn : LeadingNumber cs n)
    (hm : LeadingNumber cs m) : n = m := by
  obtain ⟨_, _, _, _, _, hstart, rfl⟩ := hn
  obtain ⟨_, _, _, _, _, hstart', rfl⟩ := hm
  rw [hstart.apply_eq, hstart'.apply_eq]

/-- What is read is the integer with which the text starts, if it fits. -/
theorem LeadingNumber.leadingInteger_eq {s : String} {n : Int} (h : LeadingNumber s.toList n) :
    leadingInteger s = if Fits64 n then n else 0 := by
  obtain ⟨_, _, _, _, _, hstart, rfl⟩ := h
  exact hstart.leadingInteger_eq rfl

private theorem exists_sign_toList (n : Int) : ∃ sign : Sign,
    (toString n).toList = sign.chars ++ Nat.toDigits 10 n.natAbs ∧ sign.apply n.natAbs = n := by
  cases n with
  | ofNat k => exact ⟨.none, toList_toString k, rfl⟩
  | negSucc k =>
    refine ⟨.minus, ?_, rfl⟩
    change ("-" ++ toString (k + 1)).toList = _
    rw [String.toList_append, toList_toString]
    rfl

/-- A number that is written starts the text, unless a digit follows. -/
theorem leadingNumber_toString (n : Int) {rest : List Char}
    (hrest : ∀ c, rest.head? = some c → c.isDigit = false) :
    LeadingNumber ((toString n).toList ++ rest) n := by
  obtain ⟨sign, htext, hsign⟩ := exists_sign_toList n
  refine ⟨[], sign, Nat.toDigits 10 n.natAbs, n.natAbs, rest, ⟨?_, nofun, ?_, hrest, ?_⟩,
    hsign.symm⟩
  · rw [htext, List.append_assoc, List.nil_append]
  · refine spellsDecimal_iff.mpr ⟨fun c hc ↦ ?_, Nat.ofDigitChars_ten_toDigits⟩
    exact Nat.isDigit_of_mem_toDigits (by decide) (by decide) hc
  · intro _ hnone
    exact absurd hnone Nat.toDigits_ne_nil

/-- Every text starts with white space, perhaps a sign, and a run of digits. If there are digits and
the integer that they spell is one of 64 bits, it is read; zero is read if there are none, be there
a sign or not, and if the integer does not fit. Texts that differ in the white space in front or
in what follows the digits read the same; and each number of 64 bits is read back when it is
written, whatever but a digit follows it. -/
theorem leading_integer_read :
    (∀ s : String, ∃ blank sign digits magnitude rest,
      StartsWith s.toList blank sign digits magnitude rest) ∧
    (∀ (s : String) blank sign digits magnitude rest,
      StartsWith s.toList blank sign digits magnitude rest →
      leadingInteger s =
        if digits ≠ [] ∧ Fits64 (sign.apply magnitude) then sign.apply magnitude else 0) ∧
    (∀ (s t : String) blank blank' sign digits magnitude magnitude' rest rest',
      StartsWith s.toList blank sign digits magnitude rest →
      StartsWith t.toList blank' sign digits magnitude' rest' →
      leadingInteger s = leadingInteger t) ∧
    ∀ (n : Int64) (rest : String), (∀ c, rest.toList.head? = some c → c.isDigit = false) →
      leadingInteger (toString n ++ rest) = n.toInt := by
  refine ⟨fun s ↦ exists_startsWith s.toList, ?_, ?_, ?_⟩
  · intro s blank sign digits magnitude rest h
    rw [h.leadingInteger_eq rfl]
    by_cases hnone : digits = []
    · subst hnone
      have hzero : magnitude = 0 := (spellsDecimal_iff.mp h.spelt).2.symm
      subst hzero
      cases sign <;> rfl
    · exact if_congr (and_iff_right hnone).symm rfl rfl
  · intro s t blank blank' sign digits magnitude magnitude' rest rest' h h'
    have hsame : magnitude = magnitude' :=
      (spellsDecimal_iff.mp h.spelt).2.symm.trans (spellsDecimal_iff.mp h'.spelt).2
    rw [h.leadingInteger_eq rfl, h'.leadingInteger_eq rfl, hsame]
  · intro n rest hrest
    have hnumber : LeadingNumber (toString n ++ rest).toList n.toInt := by
      rw [String.toList_append]
      exact leadingNumber_toString n.toInt hrest
    have hfits : Fits64 n.toInt := ⟨n.le_toInt, Int.le_sub_one_of_lt n.toInt_lt⟩
    rw [hnumber.leadingInteger_eq, if_pos hfits]

/-- An amount after an ideographic space is read, whatever its currency; and the least number of 64
bits is read back. -/
theorem amount_read :
    StartsWith "\u3000-42€".toList ['\u3000'] .minus ['4', '2'] 42 ['€'] ∧
    StartsWith "-42".toList [] .minus ['4', '2'] 42 [] ∧
    (∀ c, ".0".toList.head? = some c → c.isDigit = false) ∧
    leadingInteger "\u3000-42€" = -42 ∧ leadingInteger "\u3000-42€" = leadingInteger "-42" ∧
    leadingInteger (toString Int64.minValue ++ ".0") = -9223372036854775808 := by
  obtain ⟨-, hread, hsame, hback⟩ := leading_integer_read
  have hdigits : SpellsDecimal ['4', '2'] 42 := ⟨[4, 2], by decide, by decide⟩
  have hfirst : StartsWith "\u3000-42€".toList ['\u3000'] .minus ['4', '2'] 42 ['€'] :=
    ⟨rfl, List.forall_mem_singleton.mpr rfl, hdigits, by rintro _ ⟨⟩; rfl, nofun⟩
  have hsecond : StartsWith "-42".toList [] .minus ['4', '2'] 42 [] :=
    ⟨rfl, nofun, hdigits, nofun, nofun⟩
  have hrest : ∀ c, ".0".toList.head? = some c → c.isDigit = false := by
    rintro _ ⟨⟩
    rfl
  exact ⟨hfirst, hsecond, hrest, hread _ _ _ _ _ _ hfirst, hsame _ _ _ _ _ _ _ _ _ _ hfirst hsecond,
    hback .minValue ".0" hrest⟩

end AcceleratorTopology.Text
