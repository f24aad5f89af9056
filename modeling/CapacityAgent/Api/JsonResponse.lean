/-
# Members of responses

The helpers that add numbers and texts to the objects of a response (`json_response.h`). A
64-bit integer is cast to the `double` that a JSON number is, and what a client reads is what
the number is printed as.
-/

import CapacityAgent.CJson.PrintedNumber

namespace CapacityAgent

open CJson (Item getObjectItemCaseSensitive printed)

/-! ## Members -/

/-- `AddInt64`. -/
def int64Item (value : ℤ) : Item := .number (Binary64.nearest value)

/-- `AddOptionalInt64`. -/
def optionalInt64Item (value : Option ℤ) : Item := value.elim .null int64Item

/-- `AddOptionalDouble`. -/
def optionalDoubleItem (value : Option Double) : Item := value.elim .null .number

/-- `AddOptionalString`. -/
def optionalStringItem (value : Option CStr) : Item := value.elim .null .string

/-! ## What is read -/

/-- The number that an item is printed as. -/
def readNumber : Item → Option ℚ
  | .number valuedouble => printed valuedouble
  | _ => none

/-- A 64-bit integer of fifteen digits is read as it is. -/
theorem readNumber_int64Item {n : ℤ} (small : |n| < 10 ^ 15) :
    readNumber (int64Item n) = some (n : ℚ) := by
  rw [int64Item, readNumber, Binary64.nearest_intCast (small.le.trans (by norm_num)),
    CJson.printed_intCast small]

end CapacityAgent
