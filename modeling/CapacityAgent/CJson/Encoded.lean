/-
# cJSON keeps UTF-8

The strings read from a line in UTF-8 are in UTF-8. An escape that is no code makes the
decoder write a zero byte and pass over part of a character, but a C string ends there.
-/

import CapacityAgent.CJson.Grammar

namespace CapacityAgent.CJson

open Json (quoted)
open Utf8 (Encoded)

/-! ## Escape sequences -/

theorem encodeAsUtf8_sound {codepoint : ℕ} {bytes : Bytes}
    (scalar : codepoint < 0xD800 ∨ 0xDFFF < codepoint)
    (encoded : encodeAsUtf8 codepoint = some bytes) :
    ∃ c : Char, c.toNat = codepoint ∧ String.utf8EncodeChar c = bytes := by
  have bounded : codepoint < 0x110000 := by
    unfold encodeAsUtf8 at encoded
    split_ifs at encoded <;> omega
  have valid : codepoint.isValidChar := scalar.imp_right fun high => ⟨high, bounded⟩
  have code : (Char.ofNat codepoint).toNat = codepoint := by
    rw [Char.ofNat, dif_pos valid]
    rfl
  have written := encodeAsUtf8_toNat (Char.ofNat codepoint)
  rw [code] at written
  exact ⟨_, code, Option.some.inj (written.symm.trans encoded)⟩

theorem toNat_lt_of_hexValue {b : UInt8} {digit : ℕ} (found : hexValue b = some digit) :
    b.toNat < 128 := by
  have atMost : ∀ top : UInt8, b ≤ top → top.toNat < 128 → b.toNat < 128 := fun top below small =>
    lt_of_le_of_lt (UInt8.le_iff_toNat_le.mp below) small
  unfold hexValue at found
  split_ifs at found with decimal upper lower
  · exact atMost _ decimal.2 (by decide)
  · exact atMost _ upper.2 (by decide)
  · exact atMost _ lower.2 (by decide)

theorem ascii_of_mapM_hexValue {s : Bytes} {digits : List ℕ}
    (read : s.mapM hexValue = some digits) : ∀ b ∈ s, b.toNat < 128 := by
  induction s generalizing digits with
  | nil => exact List.forall_mem_nil _
  | cons b rest ih =>
    rw [List.mapM_cons] at read
    obtain ⟨digit, first, read⟩ := Option.bind_eq_some_iff.mp read
    obtain ⟨later, others, -⟩ := Option.bind_eq_some_iff.mp read
    exact List.forall_mem_cons.mpr ⟨toNat_lt_of_hexValue first, ih others⟩

/-- A code that is not zero is made of digits. -/
theorem ascii_of_parseHex4 {input : Bytes} (code : parseHex4 input ≠ 0) :
    ∀ b ∈ input.take 4, b.toNat < 128 := by
  unfold parseHex4 at code
  split at code
  next digits read => exact ascii_of_mapM_hexValue read
  next => exact absurd rfl code

/-- What an escape sequence writes: a zero byte, or a character; then what follows the sequence
is in UTF-8 as well. -/
def SoundEscape (bytes more : Bytes) : Prop :=
  bytes = [0] ∨ (∃ c : Char, c.toNat ≠ 0 ∧ String.utf8EncodeChar c = bytes) ∧ Encoded more

theorem soundEscape_of_encodeAsUtf8 {codepoint : ℕ} {bytes more : Bytes}
    (scalar : codepoint < 0xD800 ∨ 0xDFFF < codepoint)
    (written : encodeAsUtf8 codepoint = some bytes) (behind : codepoint ≠ 0 → Encoded more) :
    SoundEscape bytes more := by
  by_cases zero : codepoint = 0
  · rw [zero] at written
    exact .inl (Option.some.inj written).symm
  · obtain ⟨c, code, same⟩ := encodeAsUtf8_sound scalar written
    exact .inr ⟨⟨c, code ▸ zero, same⟩, behind zero⟩

/-- What follows four digits of a code. -/
theorem encoded_drop_parseHex4 {input : Bytes} (code : parseHex4 input ≠ 0)
    (encoded : Encoded input) : Encoded (input.drop 4) := by
  rw [← List.take_append_drop 4 input] at encoded
  exact encoded.of_append (ascii_of_parseHex4 code)

theorem utf16LiteralToUtf8_sound {more bytes : Bytes} {length : ℕ} (encoded : Encoded more)
    (read : utf16LiteralToUtf8 (byte '\\' :: byte 'u' :: more) = some (bytes, length)) :
    SoundEscape bytes ((byte 'u' :: more).drop (length - 1)) := by
  have first : (byte '\\' :: byte 'u' :: more).drop 2 = more := rfl
  have second : (byte '\\' :: byte 'u' :: more).drop 6 = more.drop 4 := rfl
  rw [utf16LiteralToUtf8, first, second] at read
  dsimp only at read
  split_ifs at read with short low high short' marked pair
  · -- a pair of surrogates
    obtain ⟨bytes', written, same⟩ := Option.map_eq_some_iff.mp read
    obtain ⟨rfl, rfl⟩ := Prod.mk.inj same
    refine soundEscape_of_encodeAsUtf8 (.inr (by omega)) written fun _ => ?_
    have behind := encoded_drop_parseHex4 (by omega) encoded
    rw [← List.take_append_drop 2 (more.drop 4), not_not.mp marked] at behind
    have ascii : ∀ b ∈ [byte '\\', byte 'u'], b.toNat < 128 :=
      List.forall_mem_cons.mpr ⟨by decide, List.forall_mem_singleton.mpr (by decide)⟩
    have behind' := behind.of_append ascii
    simpa [List.drop_drop] using encoded_drop_parseHex4 (by omega) behind'
  · obtain ⟨bytes', written, same⟩ := Option.map_eq_some_iff.mp read
    obtain ⟨rfl, rfl⟩ := Prod.mk.inj same
    exact soundEscape_of_encodeAsUtf8 (by omega) written fun code =>
      encoded_drop_parseHex4 code encoded

theorem escapeSequence_sound {more bytes : Bytes} {length : ℕ} (encoded : Encoded more)
    (read : escapeSequence (byte '\\' :: more) = some (bytes, length)) :
    SoundEscape bytes (more.drop (length - 1)) := by
  match more with
  | [] => exact nomatch read
  | letter :: rest =>
    rw [escapeSequence] at read
    -- each short escape is a letter for one character
    have single : ∀ c : Char, 0 < c.toNat → c.toNat < 128 → letter.toNat < 128 →
        some ([byte c], 2) = some (bytes, length) →
        SoundEscape bytes ((letter :: rest).drop (length - 1)) := by
      intro c positive ascii small same
      obtain ⟨rfl, rfl⟩ := Prod.mk.inj (Option.some.inj same)
      exact .inr ⟨⟨c, by omega, Utf8.encodeChar_of_ascii ascii⟩, encoded.of_cons small⟩
    split_ifs at read with b f n r t itself u
    · exact single '\x08' (by decide) (by decide) (by rw [b]; decide) read
    · exact single '\x0c' (by decide) (by decide) (by rw [f]; decide) read
    · exact single '\n' (by decide) (by decide) (by rw [n]; decide) read
    · exact single '\r' (by decide) (by decide) (by rw [r]; decide) read
    · exact single '\t' (by decide) (by decide) (by rw [t]; decide) read
    · rcases itself with rfl | rfl | rfl
      · exact single '"' (by decide) (by decide) (by decide) read
      · exact single '\\' (by decide) (by decide) (by decide) read
      · exact single '/' (by decide) (by decide) (by decide) read
    · subst u
      exact utf16LiteralToUtf8_sound (encoded.of_cons (by decide)) read

/-! ## Strings -/

theorem unescapeFrom_drop (skip : ℕ) (s : Bytes) :
    unescapeFrom skip s = unescapeFrom 0 (s.drop skip) := by
  induction s generalizing skip with
  | nil =>
    rw [List.drop_nil]
    cases skip <;> rfl
  | cons b rest ih =>
    cases skip with
    | zero => rfl
    | succ skip => exact ih skip

/-- A character in front of a C string. -/
theorem encoded_ofBytes_append {c : Char} (positive : c.toNat ≠ 0) {s : Bytes}
    (encoded : Encoded (CStr.ofBytes s).bytes) :
    Encoded (CStr.ofBytes (String.utf8EncodeChar c ++ s)).bytes := by
  have nonzero : ∀ b ∈ String.utf8EncodeChar c, (b != 0) = true := by
    intro b member
    have atLeast := Utf8.le_toNat_of_mem_encodeChar (by decide)
      (Nat.one_le_iff_ne_zero.mpr positive) member
    rw [bne_iff_ne]
    rintro rfl
    exact absurd atLeast (by decide)
  have bytes : (CStr.ofBytes (String.utf8EncodeChar c ++ s)).bytes =
      String.utf8EncodeChar c ++ (CStr.ofBytes s).bytes := List.takeWhile_append_of_pos nonzero
  rw [bytes]
  exact (Utf8.encoded_char c).append encoded

/-- **What the decoding loop writes up to its first zero byte is in UTF-8.** -/
theorem encoded_of_unescapeFrom {body : Bytes} (encoded : Encoded body) {output : Bytes}
    (read : unescapeFrom 0 body = some output) : Encoded (CStr.ofBytes output).bytes := by
  -- an escape may pass over several characters, so the induction is on the length
  generalize size : body.length = n
  induction n using Nat.strongRecOn generalizing body output with
  | ind n ih =>
    subst size
    obtain ⟨chars, rfl⟩ := encoded
    cases chars with
    | nil =>
      obtain rfl := Option.some.inj read
      exact Utf8.encoded_nil
    | cons c rest =>
      have shorter : (Utf8.encode rest).length < (Utf8.encode (c :: rest)).length := by
        have positive := String.length_utf8EncodeChar c
        have width := c.utf8Size_pos
        rw [Utf8.encode_cons, List.length_append]
        omega
      rw [Utf8.encode_cons] at read
      by_cases escape : c = '\\'
      · subst escape
        have begins : String.utf8EncodeChar '\\' ++ Utf8.encode rest =
            byte '\\' :: Utf8.encode rest := rfl
        rw [begins, unescapeFrom_backslash] at read
        obtain ⟨⟨bytes, length⟩, sequence, read⟩ := Option.bind_eq_some_iff.mp read
        obtain ⟨later, written, rfl⟩ := Option.map_eq_some_iff.mp read
        rw [unescapeFrom_drop] at written
        rcases escapeSequence_sound ⟨rest, rfl⟩ sequence with rfl | ⟨⟨d, positive, rfl⟩, behind⟩
        · -- the string ends at this zero byte
          exact Utf8.encoded_nil
        · refine encoded_ofBytes_append positive (ih _ ?_ behind written rfl)
          rw [List.length_drop]
          omega
      · rw [unescapeFrom_plain (Utf8.byte_notMem_encodeChar (by decide) escape)] at read
        obtain ⟨later, written, rfl⟩ := Option.map_eq_some_iff.mp read
        by_cases zero : c.toNat = 0
        · obtain rfl : c = '\x00' := Char.toNat_inj.mp zero
          exact Utf8.encoded_nil
        · exact encoded_ofBytes_append zero (ih _ shorter ⟨rest, rfl⟩ written rfl)

/-- A string that is read anywhere in bytes in UTF-8. -/
theorem encoded_of_parseString {before s left : Bytes} {value : CStr}
    (encoded : Encoded (before ++ s)) (read : parseString s = some (value, left)) :
    Encoded value.bytes := by
  obtain ⟨inner, body, output, rfl, found, decoded, rfl⟩ := parseString_eq_some.mp read
  obtain ⟨-, rfl⟩ := stringBody_sound found
  -- the body stands between two quotes
  have behind := (encoded.split (by decide)).2
  exact encoded_of_unescapeFrom (behind.split (by decide)).1 decoded

/-! ## Objects -/

/-- The string is read somewhere in the bytes. -/
def ReadIn (s : Bytes) (value : CStr) : Prop :=
  ∃ before rest left, s = before ++ rest ∧ parseString rest = some (value, left)

theorem ReadIn.of_suffix {s t : Bytes} {value : CStr} (readIn : ReadIn t value)
    (suffix : t <:+ s) : ReadIn s value := by
  obtain ⟨before, rfl⟩ := suffix
  obtain ⟨between, rest, left, rfl, read⟩ := readIn
  exact ⟨before ++ between, rest, left, (List.append_assoc ..).symm, read⟩

theorem skipWhitespace_suffix (s : Bytes) : skipWhitespace s <:+ s := by
  obtain ⟨gap, splits, -⟩ := exists_gap s
  exact ⟨gap, splits.symm⟩

/-- What follows a byte that is found behind white space. -/
theorem suffix_of_skipWhitespace {s rest : Bytes} {b : UInt8}
    (skipped : skipWhitespace s = b :: rest) : rest <:+ s :=
  (List.suffix_cons b rest).trans (skipped ▸ skipWhitespace_suffix s)

theorem suffix_of_parseString {s left : Bytes} {value : CStr}
    (read : parseString s = some (value, left)) : left <:+ s := by
  obtain ⟨body, -, splits⟩ := parseString_sound read
  exact ⟨_, splits.symm⟩

theorem suffix_of_parseValue {fuel depth : ℕ} {s left : Bytes} {item : Item}
    (read : parseValue fuel depth s = some (item, left)) : left <:+ s := by
  obtain ⟨used, splits, -⟩ := (parse_sound fuel depth).1 _ _ _ read
  exact ⟨used, splits.symm⟩

theorem parseValue_literal {word : Bytes} (listed : word ∈ [lit "null", lit "true", lit "false"])
    (fuel depth : ℕ) (left : Bytes) :
    ∃ item, parseValue (fuel + 1) depth (word ++ left) = some (item, left) ∧
      ∀ value, item ≠ .string value := by
  simp only [List.mem_cons, List.not_mem_nil, or_false] at listed
  rcases listed with rfl | rfl | rfl
  · exact ⟨.null, rfl, nofun⟩
  · exact ⟨.bool true, rfl, nofun⟩
  · exact ⟨.bool false, rfl, nofun⟩

/-- A value that is a string is read where the value is. -/
theorem readIn_of_parseValue {fuel depth : ℕ} {s left : Bytes} {value : CStr}
    (read : parseValue fuel depth s = some (.string value, left)) : ReadIn s value := by
  cases fuel with
  | zero => exact absurd read (by simp [parseValue])
  | succ fuel =>
    generalize same : Item.string value = item at read
    cases valueRead_of_parseValue read with
    | literal listed other =>
      obtain ⟨item', read', noString⟩ := parseValue_literal listed fuel depth left
      obtain ⟨rfl, -⟩ := Prod.mk.inj (Option.some.inj (read'.symm.trans read))
      exact absurd same.symm (noString value)
    | string read =>
      obtain rfl := Item.string.inj same
      exact ⟨[], s, _, rfl, read⟩
    | number read => exact Item.noConfusion same
    | array read =>
      obtain ⟨entries, rfl⟩ := exists_of_afterBracket read
      exact Item.noConfusion same
    | object read =>
      obtain ⟨entries, rfl⟩ := exists_of_afterBracket read
      exact Item.noConfusion same

theorem readIn_of_parseMembers {fuel depth : ℕ} {s left : Bytes} {members : List (CStr × Item)}
    (read : parseMembers fuel depth s = some (members, left)) {name value : CStr}
    (member : (name, Item.string value) ∈ members) : ReadIn s value := by
  induction fuel generalizing s members with
  | zero => exact absurd read (by simp [parseMembers])
  | succ fuel ih =>
    obtain ⟨name', afterName, text, item, after, next, more, named, colon, parsed, skipped,
      goesOn⟩ := parseMembers_eq_some.mp read
    have behindName := (suffix_of_parseString named).trans (skipWhitespace_suffix s)
    have behindColon := (suffix_of_skipWhitespace colon).trans behindName
    have textIn := (skipWhitespace_suffix text).trans behindColon
    have behindValue := (suffix_of_parseValue parsed).trans textIn
    -- the string is the first value or one of the later ones
    have first : item = .string value → ReadIn s value := by
      rintro rfl
      exact (readIn_of_parseValue parsed).of_suffix textIn
    rcases goesOn with ⟨-, later, others, rfl⟩ | ⟨-, rfl, -⟩
    · rcases List.mem_cons.mp member with same | inLater
      · exact first (Prod.mk.inj same).2.symm
      · exact (ih others inLater).of_suffix ((suffix_of_skipWhitespace skipped).trans behindValue)
    · exact first (Prod.mk.inj (List.mem_singleton.mp member)).2.symm

theorem readIn_of_object {fuel depth : ℕ} {inner left : Bytes} {children : List (CStr × Item)}
    (read : afterBracket (byte '}') (parseMembers fuel depth) .object inner =
      some (.object children, left)) {name value : CStr}
    (member : (name, Item.string value) ∈ children) : ReadIn inner value := by
  unfold afterBracket at read
  cases skipped : skipWhitespace inner with
  | nil => simp [skipped] at read
  | cons next more =>
    rw [skipped] at read
    dsimp only at read
    split_ifs at read with closed
    · obtain rfl := Item.object.inj (Prod.mk.inj (Option.some.inj read)).1
      exact absurd member List.not_mem_nil
    · obtain ⟨⟨members, left'⟩, found, same⟩ := Option.map_eq_some_iff.mp read
      obtain rfl := Item.object.inj (Prod.mk.inj same).1
      exact (readIn_of_parseMembers found member).of_suffix (skipped ▸ skipWhitespace_suffix inner)

theorem readIn_of_parse {value : CStr} {children : List (CStr × Item)}
    (read : parse value = some (.object children)) {name string : CStr}
    (member : (name, Item.string string) ∈ children) : ReadIn (content value) string := by
  obtain ⟨⟨root, left⟩, found, same⟩ := Option.map_eq_some_iff.mp read
  obtain rfl : root = .object children := same
  obtain ⟨mark, rest, splits, unmarked⟩ := exists_skipUtf8Bom value
  have start : skipUtf8Bom (content value) <:+ content value :=
    ⟨mark, by rw [unmarked, content, splits, List.append_assoc]⟩
  have object := (skipWhitespace_suffix _).trans start
  generalize skipWhitespace (skipUtf8Bom (content value)) = s at found object
  generalize 2 * (content value).length = fuel at found
  cases fuel with
  | zero => exact absurd found (by simp [parseValue])
  | succ fuel =>
    generalize same : Item.object children = item at found
    cases valueRead_of_parseValue found with
    | literal listed other => exact absurd same.symm (other children)
    | string read => exact Item.noConfusion same
    | number read => exact Item.noConfusion same
    | array read =>
      obtain ⟨entries, rfl⟩ := exists_of_afterBracket read
      exact Item.noConfusion same
    | @object inner left item read =>
      subst same
      exact (readIn_of_object read member).of_suffix ((List.suffix_cons _ inner).trans object)

/-- **The strings of an object read from a line in UTF-8 are in UTF-8.** -/
theorem encoded_of_getObjectItem {line : Bytes} (encoded : Encoded line) {root : Item}
    (read : parse (CStr.ofBytes line) = some root) {key value : CStr}
    (found : getObjectItemCaseSensitive root key = some (.string value)) :
    Encoded value.bytes := by
  unfold getObjectItemCaseSensitive at found
  split at found
  next children =>
    obtain ⟨⟨name, item⟩, search, same⟩ := Option.map_eq_some_iff.mp found
    obtain rfl : item = .string value := same
    obtain ⟨before, rest, left, splits, parsed⟩ :=
      readIn_of_parse read (List.mem_of_find?_eq_some search)
    have terminated : Encoded (content (CStr.ofBytes line)) :=
      encoded.takeWhile_ne_zero.append (Utf8.encoded_char '\x00')
    exact encoded_of_parseString (splits ▸ terminated) parsed
  next => exact nomatch found

end CapacityAgent.CJson
