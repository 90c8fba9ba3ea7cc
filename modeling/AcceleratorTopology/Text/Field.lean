import AcceleratorTopology.Text.Utf8

/-!
# Fixed-size text fields

A text field of a vendor record is an array of bytes: the text, then, if there is room, a NUL
and bytes without meaning. A text that fills its field has no NUL.
-/

namespace AcceleratorTopology.Text.Field

/-- The bytes of a field that belong to its text: those before the first NUL. -/
def content (field : List UInt8) : List UInt8 := field.takeWhile (· != 0)

/-- The text of a field, with a replacement character for each invalid part. -/
def text (field : List UInt8) : String := Utf8.decodeLossy (content field)

/-- A field of `size` bytes that holds as many of the given bytes as fit, padded with NULs. -/
def store (size : Nat) (bytes : List UInt8) : List UInt8 := (bytes.take size).rightpad size 0

/-- A field has its size whatever is stored in it. -/
@[simp] theorem length_store (size : Nat) (bytes : List UInt8) :
    (store size bytes).length = size := by
  simp only [store, List.rightpad, List.length_append, List.length_replicate, List.length_take]
  omega

/-- What follows the first NUL does not belong to the text. -/
@[simp] theorem content_append_nul (bytes junk : List UInt8) :
    content (bytes ++ 0 :: junk) = content bytes := by
  induction bytes with
  | nil => simp [content]
  | cons b bs ih =>
    by_cases h : b = 0
    · simp [content, h]
    · simpa [content, List.takeWhile_cons, h] using ih

/-- The text depends on nothing but the bytes before the first NUL. -/
theorem text_append_nul (bytes junk : List UInt8) : text (bytes ++ 0 :: junk) = text bytes := by
  simp [text]

end AcceleratorTopology.Text.Field
