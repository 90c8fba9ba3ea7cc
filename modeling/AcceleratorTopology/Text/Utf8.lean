/-!
# UTF-8

Decoding bytes one at a time. A byte either completes a character, is taken as part of one, or
cannot continue what was read; in the last case what was read so far is one invalid subpart and
the byte is looked at afresh. Invalid subparts are therefore maximal, and decoding loses no byte
that starts a character. Reading strictly refuses every invalid subpart (`decode?`), reading
leniently writes one replacement character for each (`decodeLossy`).
-/

namespace AcceleratorTopology.Text.Utf8

/-- A character of which some bytes have been read: its leading bits, the number of bytes still
owed, and the least and the greatest byte that may come next. -/
structure Partial where
  value : Nat
  owed : Nat
  low : Nat
  high : Nat
  deriving DecidableEq, Repr

/-- What one byte does to the character being read. -/
inductive Step where
  /-- The byte completes a character. -/
  | complete (c : Char)
  /-- More bytes are needed. -/
  | more (p : Partial)
  /-- The byte cannot stand here. -/
  | refused
  deriving DecidableEq, Repr

/-- The first byte of a character. Bounds on the second byte exclude long forms, surrogates and
values above U+10FFFF. -/
def lead (byte : UInt8) : Step :=
  let b := byte.toNat
  if b < 0x80 then .complete (Char.ofNat b)
  else if b < 0xC2 then .refused
  else if b < 0xE0 then .more ⟨b - 0xC0, 1, 0x80, 0xBF⟩
  else if b = 0xE0 then .more ⟨0, 2, 0xA0, 0xBF⟩
  else if b = 0xED then .more ⟨0xD, 2, 0x80, 0x9F⟩
  else if b < 0xF0 then .more ⟨b - 0xE0, 2, 0x80, 0xBF⟩
  else if b = 0xF0 then .more ⟨0, 3, 0x90, 0xBF⟩
  else if b < 0xF4 then .more ⟨b - 0xF0, 3, 0x80, 0xBF⟩
  else if b = 0xF4 then .more ⟨4, 3, 0x80, 0x8F⟩
  else .refused

/-- A later byte of a character gives its low six bits. -/
def Partial.next (p : Partial) (byte : UInt8) : Step :=
  let b := byte.toNat
  if p.low ≤ b ∧ b ≤ p.high then
    let value := p.value * 64 + b % 64
    if p.owed ≤ 1 then .complete (Char.ofNat value)
    else .more ⟨value, p.owed - 1, 0x80, 0xBF⟩
  else .refused

/-- What is settled by one byte between characters, and the character it leaves open. -/
def begin (byte : UInt8) : List (Option Char) × Option Partial :=
  match lead byte with
  | .complete c => ([some c], none)
  | .more p => ([], some p)
  | .refused => ([none], none)

/-- What is settled by one byte after the part `open?` of a character. A byte that cannot
continue settles the open part as invalid and begins anew. -/
def advance (open? : Option Partial) (byte : UInt8) : List (Option Char) × Option Partial :=
  match open? with
  | none => begin byte
  | some p =>
    match p.next byte with
    | .complete c => ([some c], none)
    | .more q => ([], some q)
    | .refused =>
      let anew := begin byte
      (none :: anew.1, anew.2)

/-- Decodes the bytes that follow the part `open?` of a character; an open part at the end is
invalid. -/
def decodeFrom : Option Partial → List UInt8 → List (Option Char)
  | none, [] => []
  | some _, [] => [none]
  | open?, byte :: bytes =>
    let settled := advance open? byte
    settled.1 ++ decodeFrom settled.2 bytes

/-- The characters of a byte sequence, with `none` for each maximal invalid subpart. -/
def decode (bytes : List UInt8) : List (Option Char) := decodeFrom none bytes

/-- The character written for an invalid subpart, U+FFFD. -/
def replacement : Char := '\uFFFD'

/-- Reads bytes leniently: one replacement character stands for each invalid subpart. -/
def decodeLossy (bytes : List UInt8) : String :=
  String.ofList ((decode bytes).map fun c ↦ c.getD replacement)

/-- Reads bytes strictly: none if any part is invalid. -/
def decode? (bytes : List UInt8) : Option String :=
  ((decode bytes).mapM id).map String.ofList

/-- The bytes of a text. -/
def encode (s : String) : List UInt8 := s.toList.flatMap String.utf8EncodeChar

/-- Bytes that are not there hold no characters. -/
@[simp] theorem decode_nil : decode [] = [] := rfl

/-- A lone continuation byte is one invalid subpart. -/
example : decode [0x41, 0x80, 0x42] = [some 'A', none, some 'B'] := by decide

/-- A character cut off by another is one invalid subpart, and the other is kept. -/
example : decode [0xE2, 0x82, 0x41] = [none, some 'A'] := by decide

/-- Long forms are invalid byte by byte. -/
example : decode [0xC0, 0xAF] = [none, none] := by decide

end AcceleratorTopology.Text.Utf8
