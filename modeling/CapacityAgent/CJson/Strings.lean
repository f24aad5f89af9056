/-
# cJSON reads strings as they are written

However a character of a string is written, raw or in one of the escapes of the JSON
grammar, `parse_string` puts its UTF-8 encoding out; the string read is the UTF-8
encoding of the string written.
-/

import CapacityAgent.CJson.Parse

namespace CapacityAgent.CJson

open Json (Encoder Escapes hexDigit hex4 unicodeEscape shortEscapes stringText)

/-! ## Code points -/

theorem hexValue_hexDigit (upper : Bool) {d : ℕ} (small : d < 16) :
    hexValue (hexDigit upper d) = some d := by
  have all : ∀ upper, ∀ d : Fin 16, hexValue (hexDigit upper d) = some d.val := by decide
  exact all upper ⟨d, small⟩

theorem parseHex4_hex4 (upper : Bool) {code : ℕ} (small : code < 0x10000) (rest : Bytes) :
    parseHex4 (hex4 upper code ++ rest) = code := by
  have digit : ∀ n, hexValue (hexDigit upper (n % 16)) = some (n % 16) :=
    fun n => hexValue_hexDigit upper (Nat.mod_lt n (by omega))
  simp only [parseHex4, hex4, List.cons_append, List.nil_append, List.take_succ_cons,
    List.take_zero, List.mapM_cons, List.mapM_nil, digit, Option.pure_def, Option.bind_eq_bind,
    Option.bind_some, List.foldl_cons, List.foldl_nil, Nat.shiftLeft_eq]
  omega

theorem continuationByte_eq (codepoint : ℕ) :
    continuationByte codepoint = UInt8.ofNat (codepoint % 64 + 128) := by
  have bits : (codepoint ||| 0x80) &&& 0xBF = 2 ^ 7 * 1 ||| codepoint % 2 ^ 6 := by
    refine Nat.eq_of_testBit_eq fun i => ?_
    rw [Nat.testBit_and, Nat.testBit_or, Nat.testBit_or, Nat.testBit_mod_two_pow]
    by_cases high : 8 ≤ i
    · -- above the byte both are zero
      have marks : ∀ n, n < 2 ^ 8 → Nat.testBit n i = false := fun n small =>
        Nat.testBit_lt_two_pow (lt_of_lt_of_le small (Nat.pow_le_pow_right (by omega) high))
      rw [marks 0xBF (by omega), marks (2 ^ 7 * 1) (by omega), decide_eq_false (by omega)]
      simp
    · interval_cases i <;> simp [Nat.testBit]
  have small : codepoint % 2 ^ 6 < 2 ^ 7 := by omega
  rw [continuationByte, bits, ← Nat.two_pow_add_eq_or_of_lt small, Nat.add_comm]
  rfl

theorem leadingByte_eq {codepoint bits : ℕ} (mark : ℕ) (small : codepoint < 2 ^ bits)
    (byteMark : 2 ^ bits * mark + 2 ^ bits ≤ 256) :
    leadingByte codepoint (2 ^ bits * mark) = UInt8.ofNat (codepoint + 2 ^ bits * mark) := by
  have joined : codepoint ||| 2 ^ bits * mark = codepoint + 2 ^ bits * mark := by
    rw [Nat.or_comm, ← Nat.two_pow_add_eq_or_of_lt small, Nat.add_comm]
  rw [leadingByte, joined, show (0xFF : ℕ) = 2 ^ 8 - 1 from rfl, Nat.and_two_pow_sub_one_eq_mod,
    Nat.mod_eq_of_lt (by omega)]

/-- A character is a code point. -/
theorem toNat_lt_codepoints (c : Char) : c.toNat < 0x110000 := by
  rcases c.valid with low | ⟨-, high⟩
  · exact lt_trans low (by decide)
  · exact high

/-- The encoder at the end of `utf16_literal_to_utf8` is UTF-8. -/
theorem encodeAsUtf8_toNat (c : Char) : encodeAsUtf8 c.toNat = some (String.utf8EncodeChar c) := by
  have scalar := toNat_lt_codepoints c
  have same : c.val.toNat = c.toNat := rfl
  simp only [encodeAsUtf8, String.utf8EncodeChar, same, ← Nat.lt_succ_iff, continuationByte_eq,
    Nat.shiftRight_eq_div_pow, Nat.div_div_eq_div_mul]
  generalize c.toNat = n at scalar
  -- one to four bytes, at the bounds of Lean's own encoder
  split_ifs with one two three
  · rw [show (0x7F : ℕ) = 2 ^ 7 - 1 from rfl, Nat.and_two_pow_sub_one_eq_mod,
      Nat.mod_eq_of_lt one]
  · have lead : leadingByte (n / 2 ^ 6) (2 ^ 5 * 6) = UInt8.ofNat (n / 64 % 32 + 192) := by
      rw [leadingByte_eq 6 (by omega) (by omega), Nat.mod_eq_of_lt (by omega)]
      rfl
    exact congrArg (fun b => some [b, _]) lead
  · have lead : leadingByte (n / 2 ^ 12) (2 ^ 4 * 14) = UInt8.ofNat (n / 4096 % 16 + 224) := by
      rw [leadingByte_eq 14 (by omega) (by omega), Nat.mod_eq_of_lt (by omega)]
      rfl
    exact congrArg (fun b => some [b, _, _]) lead
  · have lead : leadingByte (n / 2 ^ 18) (2 ^ 3 * 30) = UInt8.ofNat (n / 262144 % 8 + 240) := by
      rw [leadingByte_eq 30 (by omega) (by omega), Nat.mod_eq_of_lt (by omega)]
      rfl
    exact congrArg (fun b => some [b, _, _, _]) lead

/-! ## Escape sequences -/

theorem length_unicodeEscape (upper : Bool) (code : ℕ) : (unicodeEscape upper code).length = 6 :=
  rfl

/-- A `\u` escape of a code unit that is no surrogate is that code point. -/
theorem utf16LiteralToUtf8_basic (upper : Bool) {code : ℕ} (small : code < 0x10000)
    (scalar : code < 0xD800 ∨ 0xDFFF < code) (rest : Bytes) :
    utf16LiteralToUtf8 (unicodeEscape upper code ++ rest) =
      (encodeAsUtf8 code).map (·, 6) := by
  have first : parseHex4 ((unicodeEscape upper code ++ rest).drop 2) = code :=
    parseHex4_hex4 upper small rest
  have long : ¬ (unicodeEscape upper code ++ rest).length < 6 := by
    rw [List.length_append, length_unicodeEscape]
    omega
  rw [utf16LiteralToUtf8, if_neg long, first, if_neg (by omega), if_neg (by omega)]

/-- Two `\u` escapes of a surrogate pair are the code point the pair stands for. -/
theorem utf16LiteralToUtf8_surrogates (upper : Bool) {offset : ℕ} (small : offset < 0x100000)
    (rest : Bytes) :
    utf16LiteralToUtf8 (unicodeEscape upper (0xD800 + offset / 0x400) ++
        (unicodeEscape upper (0xDC00 + offset % 0x400) ++ rest)) =
      (encodeAsUtf8 (0x10000 + offset)).map (·, 12) := by
  generalize high : 0xD800 + offset / 0x400 = first
  generalize low : 0xDC00 + offset % 0x400 = second
  have firstCode : parseHex4 ((unicodeEscape upper first ++
      (unicodeEscape upper second ++ rest)).drop 2) = first :=
    parseHex4_hex4 upper (by omega) _
  have secondCode : parseHex4 ((unicodeEscape upper second ++ rest).drop 2) = second :=
    parseHex4_hex4 upper (by omega) rest
  have long :
      ¬ (unicodeEscape upper first ++ (unicodeEscape upper second ++ rest)).length < 6 := by
    rw [List.length_append, length_unicodeEscape]
    omega
  have longer : ¬ (unicodeEscape upper second ++ rest).length < 6 := by
    rw [List.length_append, length_unicodeEscape]
    omega
  have dropped : (unicodeEscape upper first ++ (unicodeEscape upper second ++ rest)).drop 6 =
      unicodeEscape upper second ++ rest := rfl
  have marked : (unicodeEscape upper second ++ rest).take 2 = [byte '\\', byte 'u'] := rfl
  -- the two halves put the ten high and the ten low bits together
  have joined : ((first &&& 0x3FF) <<< 10) ||| (second &&& 0x3FF) = offset := by
    rw [show (0x3FF : ℕ) = 2 ^ 10 - 1 from rfl, Nat.and_two_pow_sub_one_eq_mod,
      Nat.and_two_pow_sub_one_eq_mod, ← Nat.shiftLeft_add_eq_or_of_lt (Nat.mod_lt _ (by omega)),
      Nat.shiftLeft_eq]
    omega
  rw [utf16LiteralToUtf8, if_neg long, firstCode, if_neg (by omega), if_pos (by omega), dropped,
    if_neg longer, if_neg (by rw [marked]; exact fun differ => differ rfl), secondCode,
    if_neg (by omega), joined]

theorem unescapeFrom_plain {bytes : Bytes} (plain : byte '\\' ∉ bytes) (rest : Bytes) :
    unescapeFrom 0 (bytes ++ rest) = (unescapeFrom 0 rest).map (bytes ++ ·) := by
  induction bytes with
  | nil => simp
  | cons b more ih =>
    have notBackslash : b ≠ byte '\\' := fun same => plain (same ▸ List.mem_cons_self)
    have later : byte '\\' ∉ more := fun member => plain (List.mem_cons_of_mem b member)
    rw [List.cons_append, unescapeFrom, if_pos notBackslash, ih later, Option.map_map]
    rfl

theorem unescapeFrom_backslash (rest : Bytes) :
    unescapeFrom 0 (byte '\\' :: rest) =
      (escapeSequence (byte '\\' :: rest)).bind fun found =>
        (unescapeFrom (found.2 - 1) rest).map (found.1 ++ ·) := by
  rw [unescapeFrom, if_neg (fun differ => differ rfl)]
  cases escapeSequence (byte '\\' :: rest) <;> rfl

theorem unescapeFrom_unicodeEscape {upper : Bool} {code length : ℕ} {bytes more : Bytes}
    (read : utf16LiteralToUtf8 (unicodeEscape upper code ++ more) = some (bytes, length + 6)) :
    unescapeFrom 0 (unicodeEscape upper code ++ more) =
      (unescapeFrom length more).map (bytes ++ ·) := by
  have sequence : escapeSequence (unicodeEscape upper code ++ more) = some (bytes, length + 6) :=
    read
  have begins : unicodeEscape upper code ++ more =
      byte '\\' :: byte 'u' :: (hex4 upper code ++ more) := rfl
  rw [begins] at sequence ⊢
  rw [unescapeFrom_backslash, sequence]
  rfl

/-- What the decoding loop does with one character, however it is written. -/
theorem unescapeFrom_escapes {c : Char} {bytes : Bytes} (escapes : Escapes c bytes)
    (rest : Bytes) :
    unescapeFrom 0 (bytes ++ rest) =
      (unescapeFrom 0 rest).map (String.utf8EncodeChar c ++ ·) := by
  have encoded := encodeAsUtf8_toNat c
  cases escapes with
  | raw printable notQuote notBackslash =>
    -- no byte of its encoding is a backslash
    exact unescapeFrom_plain (Utf8.byte_notMem_encodeChar (by decide) notBackslash) rest
  | short letter listed =>
    simp only [shortEscapes, List.mem_cons, Prod.mk.injEq, List.not_mem_nil, or_false] at listed
    rcases listed with ⟨rfl, rfl⟩ | ⟨rfl, rfl⟩ | ⟨rfl, rfl⟩ | ⟨rfl, rfl⟩ | ⟨rfl, rfl⟩ |
      ⟨rfl, rfl⟩ | ⟨rfl, rfl⟩ | ⟨rfl, rfl⟩ <;> rfl
  | basic upper narrow =>
    have scalar : c.toNat < 0xD800 ∨ 0xDFFF < c.toNat := by
      rcases c.valid with low | ⟨high, -⟩
      · exact .inl low
      · exact .inr high
    -- a character is no surrogate, so its escape stands alone
    refine unescapeFrom_unicodeEscape ?_
    rw [utf16LiteralToUtf8_basic upper narrow scalar, encoded]
    rfl
  | surrogates upper wide =>
    have scalar := toNat_lt_codepoints c
    have whole : 0x10000 + (c.toNat - 0x10000) = c.toNat := by omega
    -- both escapes are read at the first; the loop passes over the second
    have read := utf16LiteralToUtf8_surrogates upper
      (show c.toNat - 0x10000 < 0x100000 by omega) rest
    rw [whole, encoded] at read
    have length : (some (String.utf8EncodeChar c)).map (·, 12) =
        some (String.utf8EncodeChar c, 6 + 6) := rfl
    rw [List.append_assoc, unescapeFrom_unicodeEscape (read.trans length)]
    rfl

/-! ## Strings -/

theorem stringBody_plain {bytes : Bytes} (noQuote : byte '"' ∉ bytes)
    (noBackslash : byte '\\' ∉ bytes) (rest : Bytes) :
    stringBody (bytes ++ rest) =
      (stringBody rest).map fun found => (bytes ++ found.1, found.2) := by
  induction bytes with
  | nil => simp
  | cons b more ih =>
    have notQuote : b ≠ byte '"' := fun same => noQuote (same ▸ List.mem_cons_self)
    have notBackslash : b ≠ byte '\\' := fun same => noBackslash (same ▸ List.mem_cons_self)
    have later := ih (fun member => noQuote (List.mem_cons_of_mem b member))
      fun member => noBackslash (List.mem_cons_of_mem b member)
    rw [List.cons_append, stringBody.eq_def]
    simp only [notQuote, notBackslash, if_false, later, Option.map_map]
    rfl

theorem stringBody_escaped (letter : UInt8) (rest : Bytes) :
    stringBody (byte '\\' :: letter :: rest) =
      (stringBody rest).map fun found => (byte '\\' :: letter :: found.1, found.2) := rfl

theorem byte_notMem_hex4 {b : UInt8} (noDigit : ∀ upper, ∀ d : Fin 16, hexDigit upper d ≠ b)
    (upper : Bool) (code : ℕ) : b ∉ hex4 upper code := by
  intro member
  have digit : ∀ n, hexDigit upper (n % 16) ≠ b :=
    fun n => noDigit upper ⟨n % 16, Nat.mod_lt n (by omega)⟩
  simp only [hex4, List.mem_cons, List.not_mem_nil, or_false] at member
  rcases member with same | same | same | same
  all_goals exact digit _ same.symm

theorem stringBody_unicodeEscape (upper : Bool) (code : ℕ) (rest : Bytes) :
    stringBody (unicodeEscape upper code ++ rest) =
      (stringBody rest).map fun found => (unicodeEscape upper code ++ found.1, found.2) := by
  have digits := stringBody_plain (byte_notMem_hex4 (by decide) upper code)
    (byte_notMem_hex4 (by decide) upper code) rest
  have start : unicodeEscape upper code ++ rest =
      byte '\\' :: byte 'u' :: (hex4 upper code ++ rest) := rfl
  rw [start, stringBody_escaped, digits, Option.map_map]
  rfl

/-- What the search for the closing quote does with one character. -/
theorem stringBody_escapes {c : Char} {bytes : Bytes} (escapes : Escapes c bytes)
    (rest : Bytes) :
    stringBody (bytes ++ rest) =
      (stringBody rest).map fun found => (bytes ++ found.1, found.2) := by
  cases escapes with
  | raw printable notQuote notBackslash =>
    exact stringBody_plain (Utf8.byte_notMem_encodeChar (by decide) notQuote)
      (Utf8.byte_notMem_encodeChar (by decide) notBackslash) rest
  | short letter listed => exact stringBody_escaped (byte letter) rest
  | basic upper narrow => exact stringBody_unicodeEscape upper _ rest
  | surrogates upper wide =>
    rw [List.append_assoc, stringBody_unicodeEscape, stringBody_unicodeEscape, Option.map_map]
    simp [Function.comp_def]

variable (encoder : Encoder)

theorem stringBody_text (chars : List Char) (rest : Bytes) :
    stringBody (chars.flatMap encoder.escape ++ byte '"' :: rest) =
      some (chars.flatMap encoder.escape, rest) := by
  induction chars with
  | nil =>
    rw [List.flatMap_nil, List.nil_append, stringBody.eq_def]
    rfl
  | cons c later ih =>
    rw [List.flatMap_cons, List.append_assoc, stringBody_escapes (encoder.legal c), ih]
    rfl

theorem unescapeFrom_text (chars : List Char) :
    unescapeFrom 0 (chars.flatMap encoder.escape) = some (Utf8.encode chars) := by
  induction chars with
  | nil => rfl
  | cons c later ih =>
    rw [List.flatMap_cons, unescapeFrom_escapes (encoder.legal c), ih]
    rfl

/-- What `parse_string` has read: a quote, the body up to another, and what that says. -/
theorem parseString_eq_some {s left : Bytes} {value : CStr} :
    parseString s = some (value, left) ↔ ∃ inner body output, s = byte '"' :: inner ∧
      stringBody inner = some (body, left) ∧ unescapeFrom 0 body = some output ∧
        CStr.ofBytes output = value := by
  constructor
  · intro read
    match s with
    | [] => exact nomatch read
    | b :: inner =>
      rw [parseString] at read
      split_ifs at read with notQuote
      split at read
      next => exact nomatch read
      next body left' closed =>
        split at read
        next => exact nomatch read
        next output decoded =>
          obtain ⟨rfl, rfl⟩ := Prod.mk.inj (Option.some.inj read)
          exact ⟨inner, body, output, not_not.mp notQuote ▸ rfl, closed, decoded, rfl⟩
  · rintro ⟨inner, body, output, rfl, closed, decoded, rfl⟩
    rw [parseString, if_neg (fun differ => differ rfl)]
    simp only [closed, decoded]

/-- `parse_string` reads the text of a string. -/
theorem parseString_text (chars : List Char) (rest : Bytes) :
    parseString (stringText encoder chars ++ rest) =
      some (CStr.ofBytes (Utf8.encode chars), rest) := by
  have start : stringText encoder chars ++ rest =
      byte '"' :: (chars.flatMap encoder.escape ++ byte '"' :: rest) := by
    simp [stringText]
  exact parseString_eq_some.mpr ⟨_, _, _, start, stringBody_text encoder chars rest,
    unescapeFrom_text encoder chars, rfl⟩

end CapacityAgent.CJson
