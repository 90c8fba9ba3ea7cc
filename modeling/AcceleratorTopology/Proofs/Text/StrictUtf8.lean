import AcceleratorTopology.Proofs.Text.Utf8
import Mathlib.Data.List.Basic

/-!
# Bytes that read strictly

Reading strictly accepts what is written for a text, and nothing else. Bytes that complete a
character are the bytes of that character: the bounds on the second byte keep out all that is too
long, too large or a surrogate.
-/

namespace AcceleratorTopology.Text.Utf8

private theorem eq_ofNat_of_toNat {byte : UInt8} {n : Nat} (h : byte.toNat = n) :
    byte = UInt8.ofNat n := by
  rw [← h, UInt8.ofNat_toNat]

/-- The bytes that complete a character of which some have been read. -/
inductive Completes : Partial → List UInt8 → Char → Prop
  | last {p : Partial} {byte : UInt8} {c : Char} (h : p.next byte = .complete c) :
    Completes p [byte] c
  | more {p q : Partial} {byte : UInt8} {bytes : List UInt8} {c : Char}
    (h : p.next byte = .more q) (hrest : Completes q bytes c) : Completes p (byte :: bytes) c

section Completes

variable {byte : UInt8} {bytes : List UInt8} {c : Char} {p q : Partial} {v low high owed n : Nat}

private theorem of_next_complete (h : p.next byte = .complete c) :
    (p.low ≤ byte.toNat ∧ byte.toNat ≤ p.high) ∧ p.owed ≤ 1 ∧
      c = Char.ofNat (p.value * 64 + byte.toNat % 64) := by
  unfold Partial.next at h
  dsimp only at h
  split at h
  · next hin =>
    split at h
    · next howed => exact ⟨hin, howed, (Step.complete.inj h).symm⟩
    · cases h
  · cases h

private theorem of_next_more (h : p.next byte = .more q) :
    (p.low ≤ byte.toNat ∧ byte.toNat ≤ p.high) ∧ 1 < p.owed ∧
      q = ⟨p.value * 64 + byte.toNat % 64, p.owed - 1, 0x80, 0xBF⟩ := by
  unfold Partial.next at h
  dsimp only at h
  split at h
  · next hin =>
    split at h
    · cases h
    · next howed => exact ⟨hin, Nat.not_le.mp howed, (Step.more.inj h).symm⟩
  · cases h

private theorem Completes.one (h : Completes ⟨v, 1, low, high⟩ bytes c) :
    ∃ byte : UInt8, bytes = [byte] ∧ (low ≤ byte.toNat ∧ byte.toNat ≤ high) ∧
      c = Char.ofNat (v * 64 + byte.toNat % 64) := by
  cases h with
  | last h =>
    obtain ⟨hin, -, hc⟩ := of_next_complete h
    exact ⟨_, rfl, hin, hc⟩
  | more h hrest => exact absurd (of_next_more h).2.1 (Nat.lt_irrefl 1)

private theorem Completes.succ (h : Completes ⟨v, owed + 2, low, high⟩ bytes c) :
    ∃ (byte : UInt8) (rest : List UInt8), bytes = byte :: rest ∧
      (low ≤ byte.toNat ∧ byte.toNat ≤ high) ∧
      Completes ⟨v * 64 + byte.toNat % 64, owed + 1, 0x80, 0xBF⟩ rest c := by
  cases h with
  | last h =>
    have howed : owed + 2 ≤ 1 := (of_next_complete h).2.1
    omega
  | more h hrest =>
    obtain ⟨hin, -, rfl⟩ := of_next_more h
    exact ⟨_, _, rfl, hin, hrest⟩

private theorem of_lead_complete (h : lead byte = .complete c) :
    byte.toNat < 0x80 ∧ c = Char.ofNat byte.toNat := by
  unfold lead at h
  dsimp only at h
  split at h
  · next hlow => exact ⟨hlow, (Step.complete.inj h).symm⟩
  · split_ifs at h

/-- A first byte of a longer character gives its leading bits, by which it is known how many bytes
follow and from which the next one may be. -/
inductive Opens (byte : UInt8) : Partial → Prop
  | two {v : Nat} (hbyte : byte.toNat = v + 192) (hlow : 2 ≤ v) (hhigh : v < 32) :
    Opens byte ⟨v, 1, 0x80, 0xBF⟩
  | three {v low high : Nat} (hbyte : byte.toNat = v + 224) (hhigh : v < 16)
    (hlong : v = 0 → 0xA0 ≤ low) (hsurrogate : v = 13 → high ≤ 0x9F) (hlow : 0x80 ≤ low)
    (hlast : high ≤ 0xBF) : Opens byte ⟨v, 2, low, high⟩
  | four {v low high : Nat} (hbyte : byte.toNat = v + 240) (hhigh : v < 5)
    (hlong : v = 0 → 0x90 ≤ low) (hgreat : v = 4 → high ≤ 0x8F) (hlow : 0x80 ≤ low)
    (hlast : high ≤ 0xBF) : Opens byte ⟨v, 3, low, high⟩

private theorem opens_of_lead (h : lead byte = .more p) : Opens byte p := by
  -- One case for each range of first bytes; the ranges for three and four bytes come in parts, by
  -- what they demand of the second byte.
  unfold lead at h
  dsimp only at h
  split at h
  · cases h
  split at h
  · cases h
  split at h
  · rw [← Step.more.inj h]
    apply Opens.two <;> omega
  split at h
  · rw [← Step.more.inj h]
    apply Opens.three <;> omega
  split at h
  · rw [← Step.more.inj h]
    apply Opens.three <;> omega
  split at h
  · rw [← Step.more.inj h]
    apply Opens.three <;> omega
  split at h
  · rw [← Step.more.inj h]
    apply Opens.four <;> omega
  split at h
  · rw [← Step.more.inj h]
    apply Opens.four <;> omega
  split at h
  · rw [← Step.more.inj h]
    apply Opens.four <;> omega
  · cases h

end Completes

section Written

variable {n : Nat} {b₀ b₁ b₂ b₃ : UInt8}

private theorem toNat_val_ofNat (h : n.isValidChar) : (Char.ofNat n).val.toNat = n := by
  rw [Char.ofNat, dif_pos h]
  rfl

private theorem encodeChar_one (h : b₀.toNat < 0x80) :
    String.utf8EncodeChar (Char.ofNat b₀.toNat) = [b₀] := by
  have hvalid : b₀.toNat.isValidChar := .inl (by omega)
  rw [String.utf8EncodeChar, toNat_val_ofNat hvalid, if_pos (by omega), UInt8.ofNat_toNat]

private theorem encodeChar_two (hlow : 127 < n) (hhigh : n ≤ 2047) (h₀ : b₀.toNat = n / 64 + 192)
    (h₁ : b₁.toNat = n % 64 + 128) : String.utf8EncodeChar (Char.ofNat n) = [b₀, b₁] := by
  have hvalid : n.isValidChar := .inl (by omega)
  have hhead : n / 64 % 32 = n / 64 := Nat.mod_eq_of_lt (by omega)
  rw [String.utf8EncodeChar, toNat_val_ofNat hvalid]
  rw [if_neg (by omega), if_pos hhigh, hhead, eq_ofNat_of_toNat h₀, eq_ofNat_of_toNat h₁]

private theorem encodeChar_three (hlow : 2047 < n) (hhigh : n ≤ 65535) (hvalid : n.isValidChar)
    (h₀ : b₀.toNat = n / 4096 + 224) (h₁ : b₁.toNat = n / 64 % 64 + 128)
    (h₂ : b₂.toNat = n % 64 + 128) : String.utf8EncodeChar (Char.ofNat n) = [b₀, b₁, b₂] := by
  have hhead : n / 4096 % 16 = n / 4096 := Nat.mod_eq_of_lt (by omega)
  rw [String.utf8EncodeChar, toNat_val_ofNat hvalid]
  rw [if_neg (by omega), if_neg (by omega), if_pos hhigh, hhead, eq_ofNat_of_toNat h₀,
    eq_ofNat_of_toNat h₁, eq_ofNat_of_toNat h₂]

private theorem encodeChar_four (hlow : 65535 < n) (hhigh : n < 0x110000)
    (h₀ : b₀.toNat = n / 262144 + 240) (h₁ : b₁.toNat = n / 4096 % 64 + 128)
    (h₂ : b₂.toNat = n / 64 % 64 + 128) (h₃ : b₃.toNat = n % 64 + 128) :
    String.utf8EncodeChar (Char.ofNat n) = [b₀, b₁, b₂, b₃] := by
  have hvalid : n.isValidChar := .inr ⟨by omega, hhigh⟩
  have hhead : n / 262144 % 8 = n / 262144 := Nat.mod_eq_of_lt (by omega)
  rw [String.utf8EncodeChar, toNat_val_ofNat hvalid]
  rw [if_neg (by omega), if_neg (by omega), if_neg (by omega), hhead, eq_ofNat_of_toNat h₀,
    eq_ofNat_of_toNat h₁, eq_ofNat_of_toNat h₂, eq_ofNat_of_toNat h₃]

private theorem encodeChar_of_completes {byte : UInt8} {bytes : List UInt8} {p : Partial} {c : Char}
    (hopens : Opens byte p) (h : Completes p bytes c) :
    String.utf8EncodeChar c = byte :: bytes := by
  cases hopens with
  | two hbyte hlow hhigh =>
    obtain ⟨b₁, rfl, h₁, rfl⟩ := h.one
    exact encodeChar_two (by omega) (by omega) (by omega) (by omega)
  | three hbyte hhigh hlong hsurrogate hlow hlast =>
    obtain ⟨b₁, rest, rfl, h₁, hrest⟩ := h.succ
    obtain ⟨b₂, rfl, h₂, rfl⟩ := hrest.one
    refine encodeChar_three (by omega) (by omega) ?_ (by omega) (by omega) (by omega)
    unfold Nat.isValidChar
    omega
  | four hbyte hhigh hlong hgreat hlow hlast =>
    obtain ⟨b₁, rest, rfl, h₁, hrest⟩ := h.succ
    obtain ⟨b₂, rest, rfl, h₂, hrest⟩ := hrest.succ
    obtain ⟨b₃, rfl, h₃, rfl⟩ := hrest.one
    exact encodeChar_four (by omega) (by omega) (by omega) (by omega) (by omega) (by omega)

end Written

section Reading

variable {bytes : List UInt8} {c : Char} {cs : List Char} {p : Partial}

private theorem completes_of_decodeFrom (h : decodeFrom (some p) bytes = (c :: cs).map some) :
    ∃ front back, bytes = front ++ back ∧ Completes p front c ∧ decode back = cs.map some := by
  induction bytes generalizing p with
  | nil => cases h
  | cons byte bytes ih =>
    cases hnext : p.next byte with
    | complete found =>
      rw [decodeFrom_next_complete hnext, List.map_cons, List.cons.injEq, Option.some.injEq] at h
      obtain ⟨rfl, hrest⟩ := h
      exact ⟨[byte], bytes, rfl, .last hnext, hrest⟩
    | more q =>
      rw [decodeFrom_next_more hnext] at h
      obtain ⟨front, back, rfl, hfront, hback⟩ := ih h
      exact ⟨byte :: front, back, rfl, .more hnext hfront, hback⟩
    | refused =>
      rw [decodeFrom, advance, hnext] at h
      cases h

/-- Bytes without an invalid subpart are the bytes of what they read as. -/
theorem eq_bytes_of_decode (h : decode bytes = cs.map some) : bytes = Utf8.bytes cs := by
  induction cs generalizing bytes with
  | nil => exact (decodeFrom_eq_nil_iff.mp h).2
  | cons c cs ih =>
    cases bytes with
    | nil => cases h
    | cons byte rest =>
      rw [decode] at h
      cases hlead : lead byte with
      | complete found =>
        rw [decodeFrom_lead_complete hlead, List.map_cons, List.cons.injEq, Option.some.injEq] at h
        obtain ⟨rfl, hrest⟩ := h
        obtain ⟨hlow, rfl⟩ := of_lead_complete hlead
        rw [ih hrest, bytes_cons, encodeChar_one hlow]
        rfl
      | more p =>
        rw [decodeFrom_lead_more hlead] at h
        obtain ⟨front, back, rfl, hfront, hback⟩ := completes_of_decodeFrom h
        rw [bytes_cons, encodeChar_of_completes (opens_of_lead hlead) hfront, ih hback]
        rfl
      | refused =>
        rw [decodeFrom, advance, begin, hlead] at h
        cases h

private theorem eq_map_some_of_mapM_id {parts : List (Option Char)} (h : parts.mapM id = some cs) :
    parts = cs.map some := by
  induction parts generalizing cs with
  | nil =>
    cases h
    rfl
  | cons part parts ih =>
    simp only [List.mapM_cons, Option.bind_eq_bind, Option.bind_eq_some_iff, Option.pure_def,
      Option.some.injEq, id_eq] at h
    obtain ⟨c, rfl, rest, hrest, rfl⟩ := h
    rw [ih hrest, List.map_cons]

/-- Bytes read strictly as a text exactly if they are what is written for it. -/
theorem decode?_eq_some_iff {s : String} : decode? bytes = some s ↔ bytes = encode s := by
  constructor
  · intro h
    obtain ⟨cs, hcs, rfl⟩ := Option.map_eq_some_iff.mp h
    rw [encode, String.toList_ofList]
    exact eq_bytes_of_decode (eq_map_some_of_mapM_id hcs)
  · rintro rfl
    exact decode?_encode s

end Reading

end AcceleratorTopology.Text.Utf8
