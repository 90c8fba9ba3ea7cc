import AcceleratorTopology.Text.Utf8

/-!
# Reading what was written

Text that is written in UTF-8 reads the same, and NUL bytes stand in it for NUL characters only.
Each character is taken apart into leading bits and groups of six; reading puts them together
again, and the bounds on the second byte keep nothing out that is a character.
-/

namespace AcceleratorTopology.Text.Utf8

section Steps

variable {byte : UInt8} {c : Char} {p q : Partial}

/-- A first byte that is a character of its own. -/
theorem decodeFrom_lead_complete (h : lead byte = .complete c) (bytes : List UInt8) :
    decodeFrom none (byte :: bytes) = some c :: decodeFrom none bytes := by
  rw [decodeFrom, advance, begin, h]
  rfl

/-- A first byte that leaves a character open. -/
theorem decodeFrom_lead_more (h : lead byte = .more p) (bytes : List UInt8) :
    decodeFrom none (byte :: bytes) = decodeFrom (some p) bytes := by
  rw [decodeFrom, advance, begin, h]
  rfl

/-- A later byte that completes a character. -/
theorem decodeFrom_next_complete (h : p.next byte = .complete c) (bytes : List UInt8) :
    decodeFrom (some p) (byte :: bytes) = some c :: decodeFrom none bytes := by
  rw [decodeFrom, advance, h]
  rfl

/-- A later byte that leaves a character open. -/
theorem decodeFrom_next_more (h : p.next byte = .more q) (bytes : List UInt8) :
    decodeFrom (some p) (byte :: bytes) = decodeFrom (some q) bytes := by
  rw [decodeFrom, advance, h]
  rfl

end Steps

private theorem toNat_ofNat_of_lt {n : Nat} (h : n < 256) : (UInt8.ofNat n).toNat = n := by
  rw [UInt8.toNat_ofNat']
  exact Nat.mod_eq_of_lt h

private theorem lead_one {n : Nat} (h : n < 128) :
    lead (UInt8.ofNat n) = .complete (Char.ofNat n) := by
  rw [lead, toNat_ofNat_of_lt (by omega)]
  exact if_pos h

private theorem lead_two :
    ∀ n < 32, 2 ≤ n → lead (UInt8.ofNat (n + 192)) = .more ⟨n, 1, 0x80, 0xBF⟩ := by
  decide

private theorem lead_three : ∀ n < 16, lead (UInt8.ofNat (n + 224)) =
    .more ⟨n, 2, if n = 0 then 0xA0 else 0x80, if n = 13 then 0x9F else 0xBF⟩ := by
  decide

private theorem lead_four : ∀ n < 5, lead (UInt8.ofNat (n + 240)) =
    .more ⟨n, 3, if n = 0 then 0x90 else 0x80, if n = 4 then 0x8F else 0xBF⟩ := by
  decide

section Continuation

variable {value owed low high n : Nat} (h : n < 64) (hlow : low ≤ n + 128) (hhigh : n + 128 ≤ high)
include h hlow hhigh

private theorem next_continuation :
    Partial.next ⟨value, owed, low, high⟩ (UInt8.ofNat (n + 128)) =
      if owed ≤ 1 then .complete (Char.ofNat (value * 64 + n))
      else .more ⟨value * 64 + n, owed - 1, 0x80, 0xBF⟩ := by
  have hbits : (n + 128) % 64 = n := by omega
  rw [Partial.next, toNat_ofNat_of_lt (by omega), hbits]
  exact if_pos ⟨hlow, hhigh⟩

private theorem next_last {whole : Nat} (hwhole : value * 64 + n = whole) :
    Partial.next ⟨value, 1, low, high⟩ (UInt8.ofNat (n + 128)) = .complete (Char.ofNat whole) := by
  rw [next_continuation h hlow hhigh, if_pos (Nat.le_refl 1), hwhole]

private theorem next_open (howed : 0 < owed) :
    Partial.next ⟨value, owed + 1, low, high⟩ (UInt8.ofNat (n + 128)) =
      .more ⟨value * 64 + n, owed, 0x80, 0xBF⟩ := by
  rw [next_continuation h hlow hhigh, if_neg (by omega), Nat.add_sub_cancel]

end Continuation

private theorem decodeFrom_two {n : Nat} (hlow : 127 < n) (hhigh : n ≤ 2047) (bytes : List UInt8) :
    decodeFrom none (UInt8.ofNat (n / 64 % 32 + 192) :: UInt8.ofNat (n % 64 + 128) :: bytes) =
      some (Char.ofNat n) :: decodeFrom none bytes := by
  have hlead := lead_two (n / 64 % 32) (by omega) (by omega)
  have hlast : Partial.next ⟨n / 64 % 32, 1, 0x80, 0xBF⟩ (UInt8.ofNat (n % 64 + 128)) =
      .complete (Char.ofNat n) := by
    apply next_last <;> omega
  rw [decodeFrom_lead_more hlead, decodeFrom_next_complete hlast]

private theorem decodeFrom_three {n : Nat} (hlow : 2047 < n) (hhigh : n ≤ 65535)
    (hvalid : n.isValidChar) (bytes : List UInt8) :
    decodeFrom none (UInt8.ofNat (n / 4096 % 16 + 224) :: UInt8.ofNat (n / 64 % 64 + 128) ::
        UInt8.ofNat (n % 64 + 128) :: bytes) =
      some (Char.ofNat n) :: decodeFrom none bytes := by
  unfold Nat.isValidChar at hvalid
  have hlead := lead_three (n / 4096 % 16) (by omega)
  -- What the second byte may be rules out numbers with a shorter form and surrogates.
  have hlong : (if n / 4096 % 16 = 0 then 0xA0 else 0x80) ≤ n / 64 % 64 + 128 := by
    split <;> omega
  have hsurrogate : n / 64 % 64 + 128 ≤ if n / 4096 % 16 = 13 then 0x9F else 0xBF := by
    split <;> omega
  have hmore : Partial.next ⟨n / 4096 % 16, 2, if n / 4096 % 16 = 0 then 0xA0 else 0x80,
      if n / 4096 % 16 = 13 then 0x9F else 0xBF⟩ (UInt8.ofNat (n / 64 % 64 + 128)) =
        .more ⟨n / 4096 % 16 * 64 + n / 64 % 64, 1, 0x80, 0xBF⟩ :=
    next_open (by omega) hlong hsurrogate Nat.one_pos
  have hlast : Partial.next ⟨n / 4096 % 16 * 64 + n / 64 % 64, 1, 0x80, 0xBF⟩
      (UInt8.ofNat (n % 64 + 128)) = .complete (Char.ofNat n) := by
    apply next_last <;> omega
  rw [decodeFrom_lead_more hlead, decodeFrom_next_more hmore, decodeFrom_next_complete hlast]

private theorem decodeFrom_four {n : Nat} (hlow : 65535 < n) (hhigh : n < 0x110000)
    (bytes : List UInt8) :
    decodeFrom none (UInt8.ofNat (n / 262144 % 8 + 240) :: UInt8.ofNat (n / 4096 % 64 + 128) ::
        UInt8.ofNat (n / 64 % 64 + 128) :: UInt8.ofNat (n % 64 + 128) :: bytes) =
      some (Char.ofNat n) :: decodeFrom none bytes := by
  have hlead := lead_four (n / 262144 % 8) (by omega)
  -- What the second byte may be rules out numbers with a shorter form and those of no character.
  have hlong : (if n / 262144 % 8 = 0 then 0x90 else 0x80) ≤ n / 4096 % 64 + 128 := by
    split <;> omega
  have hgreat : n / 4096 % 64 + 128 ≤ if n / 262144 % 8 = 4 then 0x8F else 0xBF := by
    split <;> omega
  have hmore : Partial.next ⟨n / 262144 % 8, 3, if n / 262144 % 8 = 0 then 0x90 else 0x80,
      if n / 262144 % 8 = 4 then 0x8F else 0xBF⟩ (UInt8.ofNat (n / 4096 % 64 + 128)) =
        .more ⟨n / 262144 % 8 * 64 + n / 4096 % 64, 2, 0x80, 0xBF⟩ :=
    next_open (by omega) hlong hgreat Nat.two_pos
  have hmore' : Partial.next ⟨n / 262144 % 8 * 64 + n / 4096 % 64, 2, 0x80, 0xBF⟩
      (UInt8.ofNat (n / 64 % 64 + 128)) =
        .more ⟨(n / 262144 % 8 * 64 + n / 4096 % 64) * 64 + n / 64 % 64, 1, 0x80, 0xBF⟩ := by
    apply next_open <;> omega
  have hlast : Partial.next
      ⟨(n / 262144 % 8 * 64 + n / 4096 % 64) * 64 + n / 64 % 64, 1, 0x80, 0xBF⟩
      (UInt8.ofNat (n % 64 + 128)) = .complete (Char.ofNat n) := by
    apply next_last <;> omega
  rw [decodeFrom_lead_more hlead, decodeFrom_next_more hmore, decodeFrom_next_more hmore',
    decodeFrom_next_complete hlast]

/-- The bytes of a character give back the character. -/
theorem decodeFrom_encodeChar (c : Char) (bytes : List UInt8) :
    decodeFrom none (String.utf8EncodeChar c ++ bytes) = some c :: decodeFrom none bytes := by
  have hvalid : c.val.toNat.isValidChar := c.valid
  have hback : Char.ofNat c.val.toNat = c := Char.ofNat_toNat c
  rw [String.utf8EncodeChar]
  generalize c.val.toNat = n at hvalid hback
  subst hback
  split
  · exact decodeFrom_lead_complete (lead_one (by omega)) bytes
  · split
    · exact decodeFrom_two (by omega) (by omega) bytes
    · split
      · exact decodeFrom_three (by omega) (by omega) hvalid bytes
      · unfold Nat.isValidChar at hvalid
        exact decodeFrom_four (by omega) (by omega) bytes

/-- The bytes of some characters. -/
def bytes (cs : List Char) : List UInt8 := cs.flatMap String.utf8EncodeChar

/-- Characters next to each other are written next to each other. -/
theorem bytes_append (front back : List Char) : bytes (front ++ back) = bytes front ++ bytes back :=
  List.flatMap_append

/-- The first character is written first. -/
theorem bytes_cons (c : Char) (cs : List Char) :
    bytes (c :: cs) = String.utf8EncodeChar c ++ bytes cs := List.flatMap_cons

/-- A character is written with its own bytes. -/
theorem bytes_singleton (c : Char) : bytes [c] = String.utf8EncodeChar c :=
  List.flatMap_singleton ..

private theorem decode_bytes_append (cs : List Char) (rest : List UInt8) :
    decode (bytes cs ++ rest) = cs.map some ++ decode rest := by
  rw [decode]
  induction cs with
  | nil => rfl
  | cons c cs ih =>
    rw [bytes_cons, List.append_assoc, decodeFrom_encodeChar, ih, List.map_cons, List.cons_append]

/-- Text that was written reads as its characters. -/
theorem decode_encode (s : String) : decode (encode s) = s.toList.map some := by
  have h := decode_bytes_append s.toList []
  rwa [List.append_nil, decode_nil, List.append_nil] at h

/-- Characters that were written are read first, also leniently. -/
theorem decodeLossy_bytes_append (cs : List Char) (rest : List UInt8) :
    decodeLossy (bytes cs ++ rest) =
      .ofList (cs ++ (decode rest).map fun c ↦ c.getD replacement) := by
  have hsome : (fun c : Option Char ↦ c.getD replacement) ∘ some = id := rfl
  rw [decodeLossy, decode_bytes_append, List.map_append, List.map_map, hsome, List.map_id]

/-- Text that was written reads the same, also leniently. -/
theorem decodeLossy_encode (s : String) : decodeLossy (encode s) = s := by
  have h := decodeLossy_bytes_append s.toList []
  rwa [List.append_nil, decode_nil, List.map_nil, List.append_nil, String.ofList_toList] at h

/-- Text that was written reads the same, also strictly. -/
theorem decode?_encode (s : String) : decode? (encode s) = some s := by
  have hall : (s.toList.map some).mapM id = some s.toList := by
    induction s.toList with
    | nil => rfl
    | cons c cs ih => rw [List.map_cons, List.mapM_cons, ih]; rfl
  rw [decode?, decode_encode, hall, Option.map_some, String.ofList_toList]

private theorem ne_zero_of_mem_encodeChar {c : Char} (hc : c ≠ '\x00') {byte : UInt8}
    (h : byte ∈ String.utf8EncodeChar c) : byte ≠ 0 := by
  have hpos : c.val.toNat ≠ 0 := fun h0 ↦ hc (Char.ext (UInt32.toNat_inj.mp h0))
  have hbound : c.val.toNat < 0x110000 := by
    have hvalid : c.val.toNat.isValidChar := c.valid
    unfold Nat.isValidChar at hvalid
    omega
  have hne {n : Nat} (hlt : n < 256) (hn : n ≠ 0) : UInt8.ofNat n ≠ 0 := fun h0 ↦
    hn ((toNat_ofNat_of_lt hlt).symm.trans (congrArg UInt8.toNat h0))
  rw [String.utf8EncodeChar] at h
  generalize c.val.toNat = n at h hpos hbound
  split at h
  · simp only [List.mem_singleton] at h
    exact h ▸ hne (by omega) (by omega)
  · split at h
    · simp only [List.mem_cons, List.not_mem_nil, or_false] at h
      rcases h with rfl | rfl <;> exact hne (by omega) (by omega)
    · split at h
      · simp only [List.mem_cons, List.not_mem_nil, or_false] at h
        rcases h with rfl | rfl | rfl <;> exact hne (by omega) (by omega)
      · simp only [List.mem_cons, List.not_mem_nil, or_false] at h
        rcases h with rfl | rfl | rfl | rfl <;> exact hne (by omega) (by omega)

/-- Text without NUL characters is written without NUL bytes. -/
theorem ne_zero_of_mem_encode {s : String} (hs : '\x00' ∉ s.toList) {byte : UInt8}
    (h : byte ∈ encode s) : byte ≠ 0 := by
  obtain ⟨c, hc, hbyte⟩ := List.mem_flatMap.mp h
  exact ne_zero_of_mem_encodeChar (fun h0 ↦ hs (h0 ▸ hc)) hbyte

section Cuts

/-- What is settled by some bytes after the part `open?` of a character, and the character that they
leave open. -/
def settle : Option Partial → List UInt8 → List (Option Char) × Option Partial
  | open?, [] => ([], open?)
  | open?, byte :: bytes =>
    let settled := advance open? byte
    let later := settle settled.2 bytes
    (settled.1 ++ later.1, later.2)

variable {open? : Option Partial} {front back : List UInt8}

/-- Decoding goes on from what was left open. -/
theorem decodeFrom_append (open? : Option Partial) (front back : List UInt8) :
    decodeFrom open? (front ++ back) =
      (settle open? front).1 ++ decodeFrom (settle open? front).2 back := by
  induction front generalizing open? with
  | nil => rfl
  | cons byte front ih =>
    rw [List.cons_append, decodeFrom, ih, settle, List.append_assoc]

private theorem advance_ne (open? : Option Partial) (byte : UInt8) :
    advance open? byte ≠ ([], none) := by
  have hbegin : begin byte ≠ ([], none) := by
    rw [begin]
    split <;> nofun
  unfold advance
  split
  · exact hbegin
  · split <;> nofun

/-- Nothing is decoded from nothing only. -/
theorem decodeFrom_eq_nil_iff : decodeFrom open? front = [] ↔ open? = none ∧ front = [] := by
  induction front generalizing open? with
  | nil => cases open? <;> simp [decodeFrom]
  | cons byte front ih =>
    rw [decodeFrom]
    refine iff_of_false (fun h ↦ ?_) nofun
    obtain ⟨hsettled, hlater⟩ := List.append_eq_nil_iff.mp h
    exact advance_ne open? byte (Prod.ext hsettled (ih.mp hlater).1)

private theorem decode_of_cut {c : Option Char} (h : decode (front ++ back) = [c])
    (hfront : front ≠ []) (hback : back ≠ []) : decode front = [none] := by
  -- Nothing is settled before the cut, as what comes after it settles something.
  rw [decode, decodeFrom_append] at h
  have hrest : decodeFrom (settle none front).2 back ≠ [] := fun hnil ↦
    hback (decodeFrom_eq_nil_iff.mp hnil).2
  have hnothing : (settle none front).1 = [] := by
    have hlength := congrArg List.length h
    have hpos := List.length_pos_iff.mpr hrest
    rw [List.length_append, List.length_singleton] at hlength
    exact List.eq_nil_of_length_eq_zero (by omega)
  have hdecode : decode front = decodeFrom (settle none front).2 [] := by
    rw [decode, ← List.append_nil front, decodeFrom_append, hnothing, List.append_nil]
    rfl
  have hsomething : decode front ≠ [] := fun hnil ↦ hfront (decodeFrom_eq_nil_iff.mp hnil).2
  cases hopen : (settle none front).2 with
  | none =>
    rw [hdecode, hopen] at hsomething
    exact absurd rfl hsomething
  | some p => rw [hdecode, hopen, decodeFrom]

/-- The bytes of a character that is cut inside are one invalid part. -/
theorem decode_take_encodeChar {c : Char} {n : Nat} (hpos : 0 < n)
    (hcut : n < (String.utf8EncodeChar c).length) :
    decode ((String.utf8EncodeChar c).take n) = [none] := by
  have hwhole : decode ((String.utf8EncodeChar c).take n ++ (String.utf8EncodeChar c).drop n) =
      [some c] := by
    have h := decode_bytes_append [c] []
    rw [bytes_singleton, List.append_nil] at h
    rw [List.take_append_drop]
    exact h
  refine decode_of_cut hwhole (List.ne_nil_of_length_pos ?_) (List.ne_nil_of_length_pos ?_)
  · rw [List.length_take]
    omega
  · rw [List.length_drop]
    omega

/-- A cut before the end of a text comes after some whole characters, and before the end of the next
one. -/
theorem exists_cut {cs : List Char} {size : Nat} (h : size < (bytes cs).length) :
    ∃ front c back, cs = front ++ c :: back ∧ (bytes front).length ≤ size ∧
      size < (bytes (front ++ [c])).length := by
  induction cs generalizing size with
  | nil => exact absurd h (Nat.not_lt_zero size)
  | cons c cs ih =>
    rw [bytes_cons, List.length_append] at h
    by_cases hfirst : size < (String.utf8EncodeChar c).length
    · refine ⟨[], c, cs, rfl, Nat.zero_le size, ?_⟩
      rwa [List.nil_append, bytes_singleton]
    · obtain ⟨front, d, back, rfl, hfits, hcut⟩ := ih (Nat.sub_lt_left_of_lt_add (by omega) h)
      refine ⟨c :: front, d, back, rfl, ?_, ?_⟩
      · rw [bytes_cons, List.length_append]
        omega
      · rw [List.cons_append, bytes_cons, List.length_append]
        omega

end Cuts

end AcceleratorTopology.Text.Utf8
