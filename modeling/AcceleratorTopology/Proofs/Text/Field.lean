import AcceleratorTopology.Proofs.Text.Utf8
import AcceleratorTopology.Text.Field
import Mathlib.Data.List.TakeWhile

/-!
# Texts in fields of fixed size

A text that fits into its field is read back, whatever stands behind the NUL that ends it, and also
if it fills the field so that there is none. Of a text that does not fit, the characters are read
that are there as a whole, and then one replacement character if another one was cut off inside.
-/

namespace AcceleratorTopology.Text.Field

open Utf8

/-- The longest front part of some characters that fits into a field of a size. -/
structure IsLongestFitting (size : Nat) (cs front : List Char) : Prop where
  initial : front <+: cs
  fits : (bytes front).length ≤ size
  longest : ∀ other, other <+: cs → (bytes other).length ≤ size → other.length ≤ front.length

/-- A cut after some bytes falls inside a character. -/
def CutsCharacter (size : Nat) (cs : List Char) : Prop :=
  ∃ front c back, cs = front ++ c :: back ∧ (bytes front).length < size ∧
    size < (bytes (front ++ [c])).length

section Cuts

variable {size : Nat} {cs front front' back : List Char} {c : Char}

private theorem length_bytes_le (h : front <+: cs) : (bytes front).length ≤ (bytes cs).length := by
  obtain ⟨back, rfl⟩ := h
  rw [bytes_append, List.length_append]
  exact Nat.le_add_right _ _

/-- There is one longest front part that fits. -/
theorem IsLongestFitting.unique (h : IsLongestFitting size cs front)
    (h' : IsLongestFitting size cs front') : front = front' := by
  have hlength : front.length = front'.length :=
    Nat.le_antisymm (h'.longest _ h.initial h.fits) (h.longest _ h'.initial h'.fits)
  have hinitial : front <+: front' :=
    List.prefix_of_prefix_length_le h.initial h'.initial (Nat.le_of_eq hlength)
  exact hinitial.eq_of_length hlength

private theorem isLongestFitting_of_cut (hcs : cs = front ++ c :: back)
    (hfits : (bytes front).length ≤ size) (hcut : size < (bytes (front ++ [c])).length) :
    IsLongestFitting size cs front where
  initial := ⟨c :: back, hcs.symm⟩
  fits := hfits
  longest := by
    intro other hother hsize
    refine Nat.le_of_not_lt fun hlonger ↦ ?_
    have hinitial : front ++ [c] <+: cs := ⟨back, by rw [hcs, List.append_assoc]; rfl⟩
    have hlength : (front ++ [c]).length ≤ other.length := by
      rw [List.length_append, List.length_singleton]
      exact hlonger
    have hle := length_bytes_le (List.prefix_of_prefix_length_le hinitial hother hlength)
    omega

private theorem cutsCharacter_iff (hcs : cs = front ++ c :: back)
    (hfits : (bytes front).length ≤ size) (hcut : size < (bytes (front ++ [c])).length) :
    CutsCharacter size cs ↔ (bytes front).length < size := by
  refine ⟨?_, fun hroom ↦ ⟨front, c, back, hcs, hroom, hcut⟩⟩
  rintro ⟨front', c', back', hcs', hroom, hcut'⟩
  have hsame := (isLongestFitting_of_cut hcs hfits hcut).unique
    (isLongestFitting_of_cut hcs' (Nat.le_of_lt hroom) hcut')
  rwa [hsame]

end Cuts

section Reading

variable {s : String} (hs : '\x00' ∉ s.toList)

private theorem content_eq {field : List UInt8} (h : ∀ byte ∈ field, byte ≠ 0) :
    content field = field :=
  List.takeWhile_eq_self_iff.mpr fun byte hbyte ↦ bne_iff_ne.mpr (h byte hbyte)

include hs

/-- A text that is there as a whole is read. -/
theorem text_encode : text (encode s) = s := by
  rw [text, content_eq fun byte ↦ ne_zero_of_mem_encode hs, decodeLossy_encode]

/-- A text that fits is read back. -/
theorem text_of_fits {size : Nat} (junk : List UInt8) (h : (encode s).length ≤ size) :
    text ((encode s ++ 0 :: junk).take size) = s := by
  rw [List.take_append, List.take_of_length_le h]
  cases size - (encode s).length with
  | zero => rw [List.take_zero, List.append_nil, text_encode hs]
  | succ room => rw [List.take_succ_cons, text_append_nul, text_encode hs]

private theorem take_of_cut {size : Nat} (junk : List UInt8) {front back : List Char} {c : Char}
    (hcs : s.toList = front ++ c :: back) (hfits : (bytes front).length ≤ size)
    (hcut : size < (bytes (front ++ [c])).length) :
    let part := (String.utf8EncodeChar c).take (size - (bytes front).length)
    (encode s ++ 0 :: junk).take size = bytes front ++ part ∧
      ∀ byte ∈ bytes front ++ part, byte ≠ 0 := by
  intro part
  rw [bytes_append, bytes_singleton, List.length_append] at hcut
  have hencode : encode s = bytes front ++ (String.utf8EncodeChar c ++ bytes back) := by
    rw [← bytes_cons, ← bytes_append, ← hcs]
    rfl
  have hlong : size ≤ (encode s).length := by
    rw [hencode, List.length_append, List.length_append]
    omega
  have hfield : (encode s).take size = bytes front ++ part := by
    rw [hencode, List.take_append, List.take_of_length_le hfits,
      List.take_append_of_le_length (by omega)]
  refine ⟨(List.take_append_of_le_length hlong).trans hfield, fun byte hbyte ↦ ?_⟩
  rw [← hfield] at hbyte
  exact ne_zero_of_mem_encode hs (List.mem_of_mem_take hbyte)

private theorem text_of_cut {size : Nat} (junk : List UInt8) {front back : List Char} {c : Char}
    (hcs : s.toList = front ++ c :: back) (hfits : (bytes front).length ≤ size)
    (hcut : size < (bytes (front ++ [c])).length) :
    text ((encode s ++ 0 :: junk).take size) = String.ofList
      (front ++ if (bytes front).length < size then [replacement] else []) := by
  obtain ⟨hfield, hbytes⟩ := take_of_cut hs junk hcs hfits hcut
  rw [hfield, text, content_eq hbytes, decodeLossy_bytes_append]
  rw [bytes_append, bytes_singleton, List.length_append] at hcut
  split
  · next hroom =>
    rw [decode_take_encodeChar (by omega) (by omega)]
    rfl
  · next hroom =>
    rw [Nat.sub_eq_zero_of_le (Nat.le_of_not_lt hroom)]
    rfl

end Reading

/-- A text without NULs, and a NUL and anything after it, are written to a field of some size as far
as they go. If the text fits, it is read back, also if there is no room for the NUL. If not, the
longest part of whole characters that fits is read, and a replacement character after it just if
the text was cut inside a character. In any field, all that matters is what comes before the first
NUL. -/
theorem written_field_read {s : String} (hs : '\x00' ∉ s.toList) (size : Nat) (junk : List UInt8) :
    let field := (encode s ++ 0 :: junk).take size
    ((encode s).length ≤ size → text field = s) ∧
    (size < (encode s).length → ∃ front, IsLongestFitting size s.toList front ∧
      (¬CutsCharacter size s.toList ∧ text field = .ofList front ∨
        CutsCharacter size s.toList ∧ text field = .ofList (front ++ ['\uFFFD']))) ∧
    ∀ before after, text (before ++ 0 :: after) = text before := by
  refine ⟨text_of_fits hs junk, fun hlong ↦ ?_, text_append_nul⟩
  obtain ⟨front, c, back, hcs, hfits, hcut⟩ := exists_cut hlong
  refine ⟨front, isLongestFitting_of_cut hcs hfits hcut, ?_⟩
  rw [cutsCharacter_iff hcs hfits hcut, text_of_cut hs junk hcs hfits hcut]
  by_cases hroom : (bytes front).length < size
  · exact .inr ⟨hroom, by rw [if_pos hroom]; rfl⟩
  · exact .inl ⟨hroom, by rw [if_neg hroom, List.append_nil]⟩

/-- A name in a field with some room is read back. In a field of three bytes it is cut inside its
third character. -/
theorem short_and_cut_name_read :
    '\x00' ∉ "Größe".toList ∧ (encode "Größe").length ≤ 9 ∧
    text ((encode "Größe" ++ 0 :: [0xFF, 0x41]).take 9) = "Größe" ∧
    3 < (encode "Größe").length ∧
    text ((encode "Größe" ++ 0 :: [0xFF, 0x41]).take 3) = .ofList ['G', 'r', '\uFFFD'] := by
  have hname : '\x00' ∉ "Größe".toList := by decide
  obtain ⟨hwhole, -, -⟩ := written_field_read hname 9 [0xFF, 0x41]
  obtain ⟨-, hcut, -⟩ := written_field_read hname 3 [0xFF, 0x41]
  have hinside : CutsCharacter 3 "Größe".toList :=
    ⟨['G', 'r'], 'ö', ['ß', 'e'], rfl, by decide, by decide⟩
  obtain ⟨front, hfront, ⟨houtside, -⟩ | ⟨-, htext⟩⟩ := hcut (by decide)
  · exact absurd hinside houtside
  · have hname' : "Größe".toList = ['G', 'r'] ++ 'ö' :: ['ß', 'e'] := rfl
    have hletters : front = ['G', 'r'] :=
      hfront.unique (isLongestFitting_of_cut hname' (by decide) (by decide))
    rw [hletters] at htext
    exact ⟨hname, by decide, hwhole (by decide), by decide, htext⟩

end AcceleratorTopology.Text.Field
