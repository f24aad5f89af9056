/-
# Numbers and strings as written

The text of a number says its decimal, and the text of a string, however its characters are
escaped, says their UTF-8 encoding.
-/

import CapacityAgent.Library.JsonDecode

namespace Json

open Utf8 (byte lit)

/-! ## Digits -/

/-- What follows a run of digits: nothing, or something else. -/
def Undigital (rest : List UInt8) : Prop := ∀ b ∈ rest.head?, isDigitByte b = false

theorem isDigitByte_toByte (d : Digit) : isDigitByte d.toByte = true := by
  revert d
  decide

theorem digitOf_toByte (d : Digit) : digitOf d.toByte = d := by
  revert d
  decide

theorem isDigitByte_of_mem_digitsText {digits : List Digit} {b : UInt8}
    (member : b ∈ digitsText digits) : isDigitByte b = true := by
  obtain ⟨d, -, rfl⟩ := List.mem_map.mp member
  exact isDigitByte_toByte d

theorem map_digitOf_digitsText (digits : List Digit) :
    (digitsText digits).map digitOf = digits := by
  rw [digitsText, List.map_map]
  exact (List.map_congr_left fun d _ => digitOf_toByte d).trans (List.map_id _)

theorem spanDigits_digitsText (digits : List Digit) {rest : List UInt8} (ends : Undigital rest) :
    spanDigits (digitsText digits ++ rest) = (digits, rest) := by
  have passes : ∀ b ∈ digitsText digits, isDigitByte b = true :=
    fun b => isDigitByte_of_mem_digitsText
  rw [spanDigits, Search.takeWhile_run passes ends, Search.dropWhile_run passes ends,
    map_digitOf_digitsText]

@[simp] theorem skipByte_self (b : UInt8) (rest : List UInt8) :
    skipByte b (b :: rest) = (true, rest) := by
  rw [skipByte, if_pos rfl]

theorem skipByte_of_head? {b : UInt8} {s : List UInt8} (other : s.head? ≠ some b) :
    skipByte b s = (false, s) := by
  cases s with
  | nil => rfl
  | cons c rest => exact if_neg fun same => other (congrArg some same)

theorem skipByte_digitsText {b : UInt8} (noDigit : isDigitByte b = false) {digits : List Digit}
    (nonempty : digits ≠ []) (rest : List UInt8) :
    skipByte b (digitsText digits ++ rest) = (false, digitsText digits ++ rest) := by
  obtain ⟨d, later, rfl⟩ := List.exists_cons_of_ne_nil nonempty
  refine skipByte_of_head? fun same => ?_
  obtain rfl : d.toByte = b := Option.some.inj same
  exact absurd (isDigitByte_toByte d) (by simp [noDigit])

/-! ## Numbers -/

section Numbers

variable (n : Number)

theorem skipByte_signText (rest : List UInt8) :
    skipByte (byte '-') (n.signText ++ (digitsText n.whole ++ rest)) =
      (n.negative, digitsText n.whole ++ rest) := by
  unfold Number.signText
  cases negative : n.negative with
  | true => rfl
  | false => exact skipByte_digitsText (by decide) n.nonempty rest

/-- An exponent begins with its letter. -/
theorem head?_exponentText : ∀ b ∈ n.exponentText.head?, b = byte 'e' ∨ b = byte 'E' := by
  intro b first
  cases exponent : n.exponent with
  | none => simp [Number.exponentText, exponent] at first
  | some exponent' =>
    simp only [Number.exponentText, exponent, Option.elim_some, Exponent.text, List.cons_append,
      List.head?_cons, Option.mem_some_iff] at first
    rw [← first]
    cases exponent'.capital <;> decide

theorem undigital_exponentText : Undigital n.exponentText := by
  intro b first
  rcases head?_exponentText n b first with rfl | rfl <;> decide

theorem decodeFraction_fractionText :
    decodeFraction (n.fractionText ++ n.exponentText) = some (n.fraction, n.exponentText) := by
  unfold Number.fractionText
  by_cases whole : n.fraction = []
  · have noPoint : n.exponentText.head? ≠ some (byte '.') := fun point => by
      rcases head?_exponentText n _ point with same | same <;> exact absurd same (by decide)
    rw [if_pos whole, List.nil_append, decodeFraction, skipByte_of_head? noPoint, whole]
    rfl
  · have point : skipByte (byte '.') (byte '.' :: digitsText n.fraction ++ n.exponentText) =
        (true, digitsText n.fraction ++ n.exponentText) := skipByte_self _ _
    simp only [if_neg whole, decodeFraction, point,
      spanDigits_digitsText _ (undigital_exponentText n), if_true]

theorem decodeExponent_exponentText :
    decodeExponent n.exponentText = some (n.exponent.elim 0 Exponent.value) := by
  cases exponent : n.exponent with
  | none =>
    rw [Number.exponentText, exponent]
    rfl
  | some exponent' =>
    have letter : byte (if exponent'.capital then 'E' else 'e') = byte 'e' ∨
        byte (if exponent'.capital then 'E' else 'e') = byte 'E' := by
      cases exponent'.capital <;> decide
    have ends : Undigital [] := by simp [Undigital]
    have digits : spanDigits (digitsText exponent'.digits) = (exponent'.digits, []) := by
      simpa using spanDigits_digitsText exponent'.digits ends
    have unsigned : ∀ b, isDigitByte b = false →
        skipByte b (digitsText exponent'.digits) = (false, digitsText exponent'.digits) :=
      fun b noDigit => by simpa using skipByte_digitsText noDigit exponent'.nonempty []
    have nonempty := exponent'.nonempty
    rw [Number.exponentText, exponent, Option.elim_some, Option.elim_some, Exponent.text,
      Exponent.value, List.cons_append, decodeExponent]
    unfold Exponent.signText
    cases signed : exponent'.sign with
    | none =>
      simp [unsigned _ (show isDigitByte (byte '-') = false by decide),
        unsigned _ (show isDigitByte (byte '+') = false by decide), digits, letter, nonempty]
    | some negative =>
      cases negative with
      | false =>
        have minus : skipByte (byte '-') (byte '+' :: digitsText exponent'.digits) =
            (false, byte '+' :: digitsText exponent'.digits) :=
          skipByte_of_head? (show some (byte '+') ≠ some (byte '-') by decide)
        simp [minus, digits, letter, nonempty]
      | true => simp [digits, letter, nonempty]

theorem undigital_fractionText : Undigital (n.fractionText ++ n.exponentText) := by
  unfold Number.fractionText
  split_ifs with whole
  · exact undigital_exponentText n
  · intro b first
    obtain rfl : byte '.' = b := Option.some.inj first
    decide

/-- The text of a number is decoded to its decimal. -/
theorem decodeNumber_text : decodeNumber n.text = some n.value := by
  have canonical : ¬ (n.whole = [] ∨ (n.whole.head? = some 0 ∧ n.whole ≠ [0])) := by
    rintro (empty | ⟨leading, longer⟩)
    · exact n.nonempty empty
    · exact longer (n.canonical leading)
  simp only [decodeNumber, Number.text, skipByte_signText,
    spanDigits_digitsText _ (undigital_fractionText n), if_neg canonical,
    decodeFraction_fractionText, Option.bind_some, decodeExponent_exponentText]
  rfl

theorem decodeWord_text : decodeWord n.text = some (.number n.value) := by
  have numeric : ∀ b ∈ n.text, b ≠ byte 'n' ∧ b ≠ byte 't' ∧ b ≠ byte 'f' :=
    n.forall_mem_text (by decide) (by decide +kernel)
  have notNull : n.text ≠ lit "null" := fun same =>
    (numeric (byte 'n') (same ▸ by decide)).1 rfl
  have notTrue : n.text ≠ lit "true" := fun same =>
    (numeric (byte 't') (same ▸ by decide)).2.1 rfl
  have notFalse : n.text ≠ lit "false" := fun same =>
    (numeric (byte 'f') (same ▸ by decide)).2.2 rfl
  rw [decodeWord, if_neg notNull, if_neg notTrue, if_neg notFalse, decodeNumber_text]
  rfl

/-- **The text of a number says the number.** -/
theorem denotes_number : Denotes n.text (.number n.value) :=
  denotes_word (.inr ⟨n, rfl⟩) (decodeWord_text n)

end Numbers

/-! ## Characters -/

theorem decodeBody_plainByte {b : UInt8} (visible : 32 ≤ b.toNat) (notQuote : b ≠ byte '"')
    (notBackslash : b ≠ byte '\\') (rest : List UInt8) :
    decodeBody (b :: rest) = (decodeBody rest).map (b :: ·) := by
  have notControl : ¬ b < 0x20 := fun control =>
    absurd (UInt8.lt_iff_toNat_lt.mp control) (Nat.not_lt.mpr visible)
  rw [decodeBody.eq_def]
  simp only [notBackslash, notQuote, notControl, or_self, if_false]

theorem decodeBody_plain {bytes : List UInt8} (visible : ∀ b ∈ bytes, 32 ≤ b.toNat)
    (noQuote : byte '"' ∉ bytes) (noBackslash : byte '\\' ∉ bytes) (rest : List UInt8) :
    decodeBody (bytes ++ rest) = (decodeBody rest).map (bytes ++ ·) := by
  induction bytes with
  | nil => simp
  | cons b more ih =>
    obtain ⟨first, visible⟩ := List.forall_mem_cons.mp visible
    obtain ⟨notQuote, noQuote⟩ := not_or.mp (List.mem_cons.not.mp noQuote)
    obtain ⟨notBackslash, noBackslash⟩ := not_or.mp (List.mem_cons.not.mp noBackslash)
    rw [List.cons_append, decodeBody_plainByte first (Ne.symm notQuote) (Ne.symm notBackslash),
      ih visible noQuote noBackslash, Option.map_map]
    rfl

theorem decodeBody_short {letter : UInt8} {c : Char} (notCode : letter ≠ byte 'u')
    (listed : shortEscape letter = some c) (rest : List UInt8) :
    decodeBody (byte '\\' :: letter :: rest) = (decodeBody rest).map (byte c :: ·) := by
  rw [decodeBody.eq_def]
  simp only [if_true, notCode, if_false, listed, Option.bind_some]

theorem hexValue_hexDigit (upper : Bool) (d : Fin 16) :
    hexValue (hexDigit upper d) = some d.val := by
  revert upper d
  decide

theorem hexCode_hex4 (upper : Bool) {code : ℕ} (small : code < 0x10000) :
    hexCode (hex4 upper code) = some code := by
  have digit : ∀ n, hexValue (hexDigit upper (n % 16)) = some (n % 16) :=
    fun n => hexValue_hexDigit upper ⟨n % 16, Nat.mod_lt n (by omega)⟩
  simp only [hexCode, hex4, List.mapM_cons, List.mapM_nil, digit, Option.pure_def,
    Option.bind_eq_bind, Option.bind_some, Option.map_some, List.foldl_cons, List.foldl_nil]
  congr 1
  omega

/-- A code that is no surrogate is that character. -/
theorem decodeBody_unicodeEscape (upper : Bool) {code : ℕ} (small : code < 0x10000)
    (scalar : code < 0xD800 ∨ 0xDFFF < code) (rest : List UInt8) :
    decodeBody (unicodeEscape upper code ++ rest) =
      (decodeBody rest).map (String.utf8EncodeChar (Char.ofNat code) ++ ·) := by
  have digits := hexCode_hex4 upper small
  simp only [unicodeEscape, hex4, List.cons_append, List.nil_append] at digits ⊢
  rw [decodeBody.eq_def]
  simp only [if_true, digits]
  rw [if_neg (by omega), if_neg (by omega)]

/-- Two codes of a pair of surrogates are the character of the pair. -/
theorem decodeBody_surrogates (upper : Bool) {offset : ℕ} (small : offset < 0x100000)
    (rest : List UInt8) :
    decodeBody (unicodeEscape upper (0xD800 + offset / 0x400) ++
        (unicodeEscape upper (0xDC00 + offset % 0x400) ++ rest)) =
      (decodeBody rest).map (String.utf8EncodeChar (Char.ofNat (0x10000 + offset)) ++ ·) := by
  generalize high : 0xD800 + offset / 0x400 = first
  generalize low : 0xDC00 + offset % 0x400 = second
  have digits := hexCode_hex4 upper (show first < 0x10000 by omega)
  have digits' := hexCode_hex4 upper (show second < 0x10000 by omega)
  have joined : 0x10000 + (first - 0xD800) * 0x400 + (second - 0xDC00) = 0x10000 + offset := by
    omega
  simp only [unicodeEscape, hex4, List.cons_append, List.nil_append] at digits digits' ⊢
  rw [decodeBody.eq_def]
  simp only [if_true, digits, digits', joined]
  rw [if_pos (by omega), if_pos (by refine ⟨trivial, trivial, ?_, ?_⟩ <;> omega)]

theorem shortEscape_of_listed : ∀ entry ∈ shortEscapes, byte entry.2 ≠ byte 'u' ∧
    shortEscape (byte entry.2) = some entry.1 ∧
    String.utf8EncodeChar entry.1 = [byte entry.1] ∧ byte entry.2 ∈ lit "\"\\/bfnrt" := by
  decide +kernel

/-! ## Strings -/

/-- However a character is written, it is decoded to its encoding. -/
theorem decodeBody_escapes {c : Char} {bytes : List UInt8} (escapes : Escapes c bytes)
    (rest : List UInt8) :
    decodeBody (bytes ++ rest) = (decodeBody rest).map (String.utf8EncodeChar c ++ ·) := by
  cases escapes with
  | raw printable notQuote notBackslash =>
    exact decodeBody_plain
      (fun b member => Utf8.le_toNat_of_mem_encodeChar (by omega) printable member)
      (Utf8.byte_notMem_encodeChar (by decide) notQuote)
      (Utf8.byte_notMem_encodeChar (by decide) notBackslash) rest
  | short letter listed =>
    obtain ⟨notCode, short, encoded, -⟩ := shortEscape_of_listed _ listed
    rw [List.cons_append, List.singleton_append, decodeBody_short notCode short, encoded]
    rfl
  | basic upper narrow =>
    have scalar : c.toNat < 0xD800 ∨ 0xDFFF < c.toNat := by
      rcases c.valid with low | ⟨high, -⟩
      · exact .inl low
      · exact .inr high
    rw [decodeBody_unicodeEscape upper narrow scalar, Char.ofNat_toNat]
  | surrogates upper wide =>
    have scalar : c.toNat < 0x110000 := by
      rcases c.valid with low | ⟨-, high⟩
      · exact lt_trans low (by decide)
      · exact high
    have whole : 0x10000 + (c.toNat - 0x10000) = c.toNat := by omega
    rw [List.append_assoc, decodeBody_surrogates upper (by omega), whole, Char.ofNat_toNat]

theorem isHexDigit_of_mem_hex4 (upper : Bool) {code : ℕ} {b : UInt8}
    (member : b ∈ hex4 upper code) : IsHexDigit b := by
  have digit : ∀ n, IsHexDigit (hexDigit upper (n % 16)) :=
    fun n => ⟨upper, ⟨n % 16, Nat.mod_lt n (by omega)⟩, rfl⟩
  simp only [hex4, List.mem_cons, List.not_mem_nil, or_false] at member
  rcases member with rfl | rfl | rfl | rfl <;> exact digit _

theorem StringBody.unicodeEscape {rest : List UInt8} (string : StringBody rest) (upper : Bool)
    (code : ℕ) : StringBody (unicodeEscape upper code ++ rest) :=
  .unicode rfl (fun _ => isHexDigit_of_mem_hex4 upper) string

theorem StringBody.escapes {rest : List UInt8} (string : StringBody rest) {c : Char}
    {bytes : List UInt8} (escapes : Escapes c bytes) : StringBody (bytes ++ rest) := by
  cases escapes with
  | raw printable notQuote notBackslash => exact .char printable notQuote notBackslash string
  | short letter listed => exact .short (shortEscape_of_listed _ listed).2.2.2 string
  | basic upper narrow => exact string.unicodeEscape upper _
  | surrogates upper wide =>
    rw [List.append_assoc]
    exact (string.unicodeEscape upper _).unicodeEscape upper _

section Strings

variable (encoder : Encoder) (chars : List Char)

theorem stringBody_text : StringBody (chars.flatMap encoder.escape) := by
  induction chars with
  | nil => exact .nil
  | cons c later ih => exact ih.escapes (encoder.legal c)

theorem decodeBody_text :
    decodeBody (chars.flatMap encoder.escape) = some (Utf8.encode chars) := by
  induction chars with
  | nil => rfl
  | cons c later ih =>
    rw [List.flatMap_cons, decodeBody_escapes (encoder.legal c), ih]
    rfl

/-- **The text of a string says the string.** -/
theorem denotes_stringText : Denotes (stringText encoder chars) (.string (Utf8.encode chars)) :=
  denotes_string (stringBody_text encoder chars) (decodeBody_text encoder chars)

end Strings

end Json
