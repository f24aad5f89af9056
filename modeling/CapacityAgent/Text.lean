/-
# Bytes and C strings

`std::string` values are byte lists. The strings that reach the store are read
through `const char*` (cJSON's `valuestring`, the command line), so they end at
their first NUL; `CStr` carries that as a field and binding by `c_str()` keeps
such a string whole.
-/

import CapacityAgent.Library.Utf8
import Mathlib.Data.Nat.Digits.Defs
import Mathlib.Data.List.TakeWhile

namespace CapacityAgent

/-- The bytes of a `std::string`. -/
abbrev Bytes := List UInt8

export Utf8 (byte lit)

/-- A NUL-terminated string, without its terminator. -/
@[ext] structure CStr where
  bytes : Bytes
  nulFree : (0 : UInt8) ∉ bytes
  deriving DecidableEq

namespace CStr

/-- What is seen of a byte string through `const char*`. -/
def ofBytes (s : Bytes) : CStr where
  bytes := s.takeWhile (· != 0)
  nulFree := fun zero => by simpa using List.mem_takeWhile_imp zero

/-- A NUL-free byte string is seen whole. -/
theorem ofBytes_bytes_of_notMem {s : Bytes} (nulFree : (0 : UInt8) ∉ s) :
    (ofBytes s).bytes = s := by
  refine List.takeWhile_eq_self_iff.mpr fun b member => ?_
  have nonzero : b ≠ 0 := fun zero => nulFree (zero ▸ member)
  simpa using nonzero

@[simp] theorem ofBytes_bytes (s : CStr) : ofBytes s.bytes = s :=
  CStr.ext (ofBytes_bytes_of_notMem s.nulFree)

/-- `operator+` on strings. -/
def append (s t : CStr) : CStr where
  bytes := s.bytes ++ t.bytes
  nulFree := by simpa using ⟨s.nulFree, t.nulFree⟩

instance : Append CStr := ⟨append⟩

end CStr

/-- A string literal. -/
def text (s : String) : CStr := CStr.ofBytes (lit s)

/-- The decimal digits of a natural number, most significant first. -/
def decimalDigits (n : ℕ) : List ℕ := if n = 0 then [0] else (Nat.digits 10 n).reverse

/-- The byte of a decimal digit. -/
def digitByte (d : ℕ) : UInt8 := (48 + d).toUInt8

/-- `std::to_string` of an integer. -/
def decimal : ℤ → Bytes
  | .ofNat n => (decimalDigits n).map digitByte
  | .negSucc n => byte '-' :: (decimalDigits (n + 1)).map digitByte

/-- `std::to_string`, as a C string. -/
def decimalText (n : ℤ) : CStr := CStr.ofBytes (decimal n)

end CapacityAgent
