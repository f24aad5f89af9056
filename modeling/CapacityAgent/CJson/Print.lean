/-
# The cJSON printer

`cJSON_PrintUnformatted`. It escapes what the JSON grammar requires and nothing else,
byte by byte, so that on items made of strings it is the compact text by an encoder of
its own. How a number that is not a 32-bit integer is formatted (`%1.15g`, or `%1.17g`
where that loses digits) is a parameter.
-/

import CapacityAgent.CJson.RoundTrip

namespace CapacityAgent.CJson

open Json (Encoder Escapes Value shortEscapes stringText)

/-! ## Printing -/

/-- What `print_string_ptr` writes for a byte. -/
def escapeByte (b : UInt8) : Bytes :=
  -- bytes from 128 on are written as they are, so UTF-8 stays UTF-8
  if 31 < b ∧ b ≠ byte '"' ∧ b ≠ byte '\\' then [b]
  else if b = byte '\\' then [byte '\\', byte '\\']
  else if b = byte '"' then [byte '\\', byte '"']
  else if b = 8 then [byte '\\', byte 'b']
  else if b = 12 then [byte '\\', byte 'f']
  else if b = 10 then [byte '\\', byte 'n']
  else if b = 13 then [byte '\\', byte 'r']
  else if b = 9 then [byte '\\', byte 't']
  else byte '\\' :: byte 'u' :: Json.hex4 false b.toNat

/-- `print_string_ptr`. -/
def printString (s : CStr) : Bytes := byte '"' :: (s.bytes.flatMap escapeByte ++ [byte '"'])

section Print

variable (formatDouble : Double → Bytes)

/-- `print_number`. -/
def printNumber (valuedouble : Double) : Bytes :=
  -- JSON has no infinities
  if Binary64.IsInfinite valuedouble then lit "null"
  else if valuedouble = valueint valuedouble then decimal (valueint valuedouble)
  else formatDouble valuedouble

mutual

/-- `print_value`. -/
def printValue : Item → Bytes
  | .null => lit "null"
  | .bool false => lit "false"
  | .bool true => lit "true"
  | .number valuedouble => printNumber formatDouble valuedouble
  | .string valuestring => printString valuestring
  | .array children => byte '[' :: (printElements children ++ [byte ']'])
  | .object children => byte '{' :: (printMembers children ++ [byte '}'])

/-- The loop of `print_array`. -/
def printElements : List Item → Bytes
  | [] => []
  | [item] => printValue item
  | item :: rest => printValue item ++ byte ',' :: printElements rest

/-- The loop of `print_object`. -/
def printMembers : List (CStr × Item) → Bytes
  | [] => []
  | [(name, item)] => printString name ++ byte ':' :: printValue item
  | (name, item) :: rest =>
    printString name ++ byte ':' :: (printValue item ++ byte ',' :: printMembers rest)

end

/-- `cJSON_PrintUnformatted`. -/
def printUnformatted (item : Item) : CStr := CStr.ofBytes (printValue formatDouble item)

end Print

/-! ## The encoder of the printer -/

theorem escapeByte_of_plain {b : UInt8} (plain : 31 < b ∧ b ≠ byte '"' ∧ b ≠ byte '\\') :
    escapeByte b = [b] := if_pos plain

theorem flatMap_escapeByte_of_plain {bytes : Bytes}
    (plain : ∀ b ∈ bytes, 31 < b ∧ b ≠ byte '"' ∧ b ≠ byte '\\') :
    bytes.flatMap escapeByte = bytes := by
  induction bytes with
  | nil => rfl
  | cons b rest ih =>
    rw [List.flatMap_cons, escapeByte_of_plain (plain b List.mem_cons_self),
      ih fun c member => plain c (List.mem_cons_of_mem b member)]
    rfl

/-- Control characters are written by a letter or by their code. -/
theorem escapeByte_control : ∀ n : Fin 32,
    (∃ entry ∈ shortEscapes, entry.1 = Char.ofNat n ∧
      escapeByte (byte (Char.ofNat n)) = [byte '\\', byte entry.2]) ∨
    escapeByte (byte (Char.ofNat n)) = Json.unicodeEscape false n := by
  decide

/-- The printer escapes every ASCII character in a way the grammar allows. -/
theorem escapes_ascii {c : Char} (ascii : c.toNat < 128) : Escapes c (escapeByte (byte c)) := by
  have code : (byte c).toNat = c.toNat := by
    rw [show (byte c).toNat = c.toNat % 256 from UInt8.toNat_ofNat', Nat.mod_eq_of_lt (by omega)]
  -- control characters by the table, the two special ones by a letter, the rest as they are
  by_cases control : c.toNat < 32
  · have written := escapeByte_control ⟨c.toNat, control⟩
    simp only [Char.ofNat_toNat] at written
    rcases written with ⟨⟨c', letter⟩, listed, rfl, byLetter⟩ | byCode
    · rw [byLetter]
      exact .short letter listed
    · rw [byCode]
      exact .basic false (by omega)
  by_cases quote : c = '"'
  · subst quote
    exact .short '"' (by decide)
  by_cases backslash : c = '\\'
  · subst backslash
    exact .short '\\' (by decide)
  have same := Utf8.encodeChar_of_ascii ascii
  have others : ∀ d : Char, d.toNat < 128 → c ≠ d → byte c ≠ byte d := by
    intro d small distinct alike
    have here : byte d ∈ String.utf8EncodeChar c := by simp [same, alike]
    exact Utf8.byte_notMem_encodeChar small distinct here
  rw [escapeByte_of_plain ⟨?_, others '"' (by decide) quote, others '\\' (by decide) backslash⟩]
  · rw [← same]
    exact .raw (by omega) quote backslash
  · rw [UInt8.lt_iff_toNat_lt, code]
    exact Nat.not_lt.mp control

/-- The printer's choice for every character. -/
def encoder : Encoder where
  escape c := (String.utf8EncodeChar c).flatMap escapeByte
  legal c := by
    by_cases ascii : c.toNat < 128
    · rw [Utf8.encodeChar_of_ascii ascii, List.flatMap_cons, List.flatMap_nil, List.append_nil]
      exact escapes_ascii ascii
    · -- no byte of a longer encoding is escaped
      have wide := Nat.le_of_not_lt ascii
      have notAscii : ∀ d : Char, d.toNat < 128 → c ≠ d := by
        rintro d small rfl
        exact ascii small
      rw [flatMap_escapeByte_of_plain fun b member => ⟨?_, ?_, ?_⟩]
      · exact .raw (by omega) (notAscii '"' (by decide)) (notAscii '\\' (by decide))
      · rw [UInt8.lt_iff_toNat_lt]
        exact lt_of_lt_of_le (by decide) (Utf8.toNat_of_mem_encodeChar wide member)
      · rintro rfl
        exact absurd (Utf8.toNat_of_mem_encodeChar wide member) (by decide)
      · rintro rfl
        exact absurd (Utf8.toNat_of_mem_encodeChar wide member) (by decide)

/-! ## Printing what was read -/

mutual

/-- The value holds no number, and no string with U+0000. -/
def Textual : Value → Prop
  | .number _ => False
  | .string chars => ∀ c ∈ chars, c.toNat ≠ 0
  | .array items => ItemsTextual items
  | .object members => MembersTextual members
  | .null | .bool _ => True

def ItemsTextual : List Value → Prop
  | [] => True
  | value :: rest => Textual value ∧ ItemsTextual rest

def MembersTextual : List (List Char × Value) → Prop
  | [] => True
  | (name, value) :: rest => (∀ c ∈ name, c.toNat ≠ 0) ∧ Textual value ∧ MembersTextual rest

end

theorem printString_encode {chars : List Char} (nulFree : ∀ c ∈ chars, c.toNat ≠ 0) :
    printString (CStr.ofBytes (Utf8.encode chars)) = stringText encoder chars := by
  rw [printString, CStr.ofBytes_bytes_of_notMem (Utf8.zero_notMem_encode nulFree), stringText,
    Utf8.encode, List.flatMap_assoc]
  rfl

section Print

variable (formatDouble : Double → Bytes)

mutual

theorem printValue_itemOf : ∀ v : Value, Textual v →
    printValue formatDouble (itemOf v) = v.text encoder
  | .null, _ => rfl
  | .bool true, _ => rfl
  | .bool false, _ => rfl
  | .number n, textual => textual.elim
  | .string chars, textual => printString_encode textual
  | .array items, textual => by
    rw [itemOf, printValue, printElements_itemsOf items textual, Value.text]
  | .object members, textual => by
    rw [itemOf, printValue, printMembers_membersOf members textual, Value.text]

theorem printElements_itemsOf : ∀ items : List Value, ItemsTextual items →
    printElements formatDouble (itemsOf items) = Value.itemsText encoder items
  | [], _ => rfl
  | [item], textual => printValue_itemOf item textual.1
  | item :: next :: rest, textual => by
    have later := printElements_itemsOf (next :: rest) textual.2
    have first := printValue_itemOf item textual.1
    calc printElements formatDouble (itemsOf (item :: next :: rest))
        = printValue formatDouble (itemOf item) ++
            byte ',' :: printElements formatDouble (itemsOf (next :: rest)) := rfl
      _ = item.text encoder ++ byte ',' :: Value.itemsText encoder (next :: rest) := by
          rw [first, later]

theorem printMembers_membersOf : ∀ members : List (List Char × Value), MembersTextual members →
    printMembers formatDouble (membersOf members) = Value.membersText encoder members
  | [], _ => rfl
  | [(name, value)], textual => by
    rw [membersOf, membersOf, printMembers, printString_encode textual.1,
      printValue_itemOf value textual.2.1, Value.membersText]
  | (name, value) :: (name', value') :: rest, textual => by
    have later := printMembers_membersOf ((name', value') :: rest) textual.2.2
    have first := printValue_itemOf value textual.2.1
    calc printMembers formatDouble (membersOf ((name, value) :: (name', value') :: rest))
        = printString (CStr.ofBytes (Utf8.encode name)) ++
            byte ':' :: (printValue formatDouble (itemOf value) ++
              byte ',' :: printMembers formatDouble (membersOf ((name', value') :: rest))) := rfl
      _ = stringText encoder name ++ byte ':' :: (value.text encoder ++
            byte ',' :: Value.membersText encoder ((name', value') :: rest)) := by
          rw [printString_encode textual.1, first, later]

end

/-- **Printing what was read** gives the compact text of the value again. -/
theorem printUnformatted_itemOf {v : Value} (textual : Textual v) :
    printUnformatted formatDouble (itemOf v) = document encoder v := by
  rw [printUnformatted, printValue_itemOf formatDouble v textual]
  exact CStr.ofBytes_bytes (document encoder v)

end Print

end CapacityAgent.CJson
