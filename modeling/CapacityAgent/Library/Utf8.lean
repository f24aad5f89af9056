/-
# UTF-8 text

The UTF-8 encoding of strings of Unicode scalar values, as lists of bytes. ASCII
characters are their own byte; every byte of any other character has its top bit
set.
-/

import Mathlib.Data.List.Basic
import Mathlib.Tactic.Common

namespace Utf8

/-- The byte of an ASCII character literal. -/
def byte (c : Char) : UInt8 := c.toNat.toUInt8

/-- The bytes of an ASCII string literal. -/
def lit (s : String) : List UInt8 := s.toList.map byte

/-- The bytes of a string. -/
def encode (chars : List Char) : List UInt8 := chars.flatMap String.utf8EncodeChar

@[simp] theorem encode_nil : encode [] = [] := rfl

@[simp] theorem encode_cons (c : Char) (rest : List Char) :
    encode (c :: rest) = String.utf8EncodeChar c ++ encode rest := rfl

theorem encode_append (first second : List Char) :
    encode (first ++ second) = encode first ++ encode second := List.flatMap_append

theorem encodeChar_of_ascii {c : Char} (ascii : c.toNat < 128) :
    String.utf8EncodeChar c = [byte c] := by
  have small : c.val.toNat ≤ 127 := Nat.le_of_lt_succ ascii
  rw [String.utf8EncodeChar, if_pos small]
  rfl

theorem toNat_of_mem_encodeChar {c : Char} (wide : 128 ≤ c.toNat) {b : UInt8}
    (member : b ∈ String.utf8EncodeChar c) : 128 ≤ b.toNat := by
  have notAscii : ¬ c.val.toNat ≤ 127 := by
    have same : c.toNat = c.val.toNat := rfl
    omega
  rw [String.utf8EncodeChar, if_neg notAscii] at member
  split_ifs at member with two three <;>
    simp only [List.mem_cons, List.not_mem_nil, or_false] at member
  · rcases member with rfl | rfl <;> rw [UInt8.toNat_ofNat'] <;> omega
  · rcases member with rfl | rfl | rfl <;> rw [UInt8.toNat_ofNat'] <;> omega
  · rcases member with rfl | rfl | rfl | rfl <;> rw [UInt8.toNat_ofNat'] <;> omega

/-- A byte below a bound of at most 128 comes from a character below it. -/
theorem le_toNat_of_mem_encodeChar {c : Char} {bound : ℕ} (small : bound ≤ 128)
    (atLeast : bound ≤ c.toNat) {b : UInt8} (member : b ∈ String.utf8EncodeChar c) :
    bound ≤ b.toNat := by
  by_cases ascii : c.toNat < 128
  · rw [encodeChar_of_ascii ascii, List.mem_singleton] at member
    rw [member, show (byte c).toNat = c.toNat % 256 from UInt8.toNat_ofNat']
    omega
  · exact Nat.le_trans small (toNat_of_mem_encodeChar (Nat.le_of_not_lt ascii) member)

/-- The byte of an ASCII character occurs in the encoding of no other character. -/
theorem byte_notMem_encodeChar {c d : Char} (ascii : d.toNat < 128) (distinct : c ≠ d) :
    byte d ∉ String.utf8EncodeChar c := by
  have same : ∀ e : Char, e.toNat < 128 → (byte e).toNat = e.toNat := fun e small => by
    rw [show (byte e).toNat = e.toNat % 256 from UInt8.toNat_ofNat', Nat.mod_eq_of_lt (by omega)]
  intro member
  by_cases narrow : c.toNat < 128
  · rw [encodeChar_of_ascii narrow, List.mem_singleton] at member
    have codes : d.toNat = c.toNat := by rw [← same d ascii, ← same c narrow, member]
    exact distinct (Char.toNat_inj.mp codes.symm)
  · have top := toNat_of_mem_encodeChar (Nat.le_of_not_lt narrow) member
    rw [same d ascii] at top
    omega

/-- Only U+0000 is encoded with a zero byte. -/
theorem zero_notMem_encode {chars : List Char} (nulFree : ∀ c ∈ chars, c.toNat ≠ 0) :
    (0 : UInt8) ∉ encode chars := by
  intro zero
  obtain ⟨c, member, here⟩ := List.mem_flatMap.mp zero
  have positive : 1 ≤ (0 : UInt8).toNat :=
    le_toNat_of_mem_encodeChar (by omega) (Nat.one_le_iff_ne_zero.mpr (nulFree c member)) here
  exact absurd positive (by decide)

/-- Different strings have different encodings. -/
theorem encode_injective : Function.Injective encode := by
  intro s t same
  have bytes : s.utf8Encode = t.utf8Encode := congrArg List.toByteArray same
  have decoded := congrArg ByteArray.utf8Decode? bytes
  rw [List.utf8Decode?_utf8Encode, List.utf8Decode?_utf8Encode] at decoded
  simpa using decoded

/-! ## Encoded bytes -/

/-- The bytes are the encoding of some characters. -/
def Encoded (s : List UInt8) : Prop := ∃ chars, encode chars = s

theorem encoded_nil : Encoded [] := ⟨[], rfl⟩

theorem encoded_char (c : Char) : Encoded (String.utf8EncodeChar c) :=
  ⟨[c], List.append_nil _⟩

theorem Encoded.append {s t : List UInt8} (first : Encoded s) (second : Encoded t) :
    Encoded (s ++ t) := by
  obtain ⟨chars, rfl⟩ := first
  obtain ⟨more, rfl⟩ := second
  exact ⟨chars ++ more, encode_append chars more⟩

/-- What stands before an ASCII byte is encoded, and so is what stands behind it. -/
theorem Encoded.split {before after : List UInt8} {b : UInt8} (ascii : b.toNat < 128)
    (encoded : Encoded (before ++ b :: after)) : Encoded before ∧ Encoded after := by
  obtain ⟨chars, same⟩ := encoded
  induction chars generalizing before with
  | nil => exact absurd same.symm (by simp)
  | cons c rest ih =>
    rw [encode_cons] at same
    rcases List.append_eq_append_iff.mp same with ⟨more, rfl, later⟩ | ⟨more, inside, later⟩
    · -- the byte is behind the first character
      obtain ⟨left, right⟩ := ih later
      exact ⟨(encoded_char c).append left, right⟩
    · cases more with
      | nil =>
        rw [List.append_nil] at inside
        have start : encode rest = [] ++ b :: after := later.symm
        exact ⟨inside ▸ encoded_char c, (ih start).2⟩
      | cons first others =>
        -- the byte is in the first character, which is nothing but this byte
        obtain ⟨rfl, rfl⟩ := List.cons.inj later
        have narrow : c.toNat < 128 := by
          by_contra wide
          have member : b ∈ String.utf8EncodeChar c := inside ▸ by simp
          exact absurd (toNat_of_mem_encodeChar (Nat.le_of_not_lt wide) member) (by omega)
        rw [encodeChar_of_ascii narrow] at inside
        have alone := congrArg List.length inside
        simp only [List.length_append, List.length_cons, List.length_nil] at alone
        obtain rfl : before = [] := List.length_eq_zero_iff.mp (by omega)
        obtain rfl : others = [] := List.length_eq_zero_iff.mp (by omega)
        exact ⟨encoded_nil, rest, rfl⟩

theorem Encoded.of_cons {b : UInt8} {rest : List UInt8} (ascii : b.toNat < 128)
    (encoded : Encoded (b :: rest)) : Encoded rest := by
  have whole : Encoded ([] ++ b :: rest) := encoded
  exact (whole.split ascii).2

theorem Encoded.of_append {first rest : List UInt8} (ascii : ∀ b ∈ first, b.toNat < 128)
    (encoded : Encoded (first ++ rest)) : Encoded rest := by
  induction first with
  | nil => exact encoded
  | cons b later ih =>
    obtain ⟨narrow, ascii⟩ := List.forall_mem_cons.mp ascii
    exact ih ascii (encoded.of_cons narrow)

/-- The bytes up to the first zero byte. -/
theorem Encoded.takeWhile_ne_zero {s : List UInt8} (encoded : Encoded s) :
    Encoded (s.takeWhile (· != 0)) := by
  have parts := List.takeWhile_append_dropWhile (p := (· != 0)) (l := s)
  cases rest : s.dropWhile (· != 0) with
  | nil =>
    rw [rest, List.append_nil] at parts
    rwa [parts]
  | cons b later =>
    obtain rfl : b = 0 := by
      have stops := List.head?_dropWhile_not (· != 0) s
      rw [rest] at stops
      simpa using stops
    rw [rest] at parts
    have whole : Encoded (s.takeWhile (· != 0) ++ 0 :: later) := by rwa [parts]
    exact (whole.split (by decide)).1

end Utf8
