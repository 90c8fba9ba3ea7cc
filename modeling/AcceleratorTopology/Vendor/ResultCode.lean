import AcceleratorTopology.Text.Numeral

/-!
# Result codes

The number every Level Zero entry point returns. Zero is success; some codes have a name.
-/

namespace AcceleratorTopology.Vendor

open Text

/-- The number that an entry point returns. -/
structure ResultCode where
  value : UInt32
  deriving DecidableEq, Repr

namespace ResultCode

/-- Nothing went wrong. -/
def success : ResultCode := ⟨0⟩

/-- A code is a failure unless it is zero. -/
def isSuccess (code : ResultCode) : Bool := code == success

/-- The codes that have a name, and their names. -/
def names : List (UInt32 × String) :=
  [(0x00000000, "ZE_RESULT_SUCCESS"),
    (0x00000001, "ZE_RESULT_NOT_READY"),
    (0x70000001, "ZE_RESULT_ERROR_DEVICE_LOST"),
    (0x70000002, "ZE_RESULT_ERROR_OUT_OF_HOST_MEMORY"),
    (0x70000003, "ZE_RESULT_ERROR_OUT_OF_DEVICE_MEMORY"),
    (0x70010000, "ZE_RESULT_ERROR_INSUFFICIENT_PERMISSIONS"),
    (0x70010001, "ZE_RESULT_ERROR_NOT_AVAILABLE"),
    (0x78000001, "ZE_RESULT_ERROR_UNINITIALIZED"),
    (0x78000002, "ZE_RESULT_ERROR_UNSUPPORTED_VERSION"),
    (0x78000003, "ZE_RESULT_ERROR_UNSUPPORTED_FEATURE"),
    (0x78000004, "ZE_RESULT_ERROR_INVALID_ARGUMENT"),
    (0x78000005, "ZE_RESULT_ERROR_INVALID_NULL_HANDLE"),
    (0x78000007, "ZE_RESULT_ERROR_INVALID_NULL_POINTER"),
    (0x78000008, "ZE_RESULT_ERROR_INVALID_SIZE"),
    (0x7FFFFFFE, "ZE_RESULT_ERROR_UNKNOWN")]

/-- The code in hexadecimal, after its name if it has one. -/
def text (code : ResultCode) : String :=
  let number := "0x" ++ hexText code.value.toNat
  match names.lookup code.value with
  | some name => name ++ " (" ++ number ++ ")"
  | none => number

/-- Exactly the code zero is a success. -/
@[simp] theorem isSuccess_iff (code : ResultCode) : code.isSuccess = true ↔ code.value = 0 := by
  cases code; simp [isSuccess, success]

end ResultCode

end AcceleratorTopology.Vendor
