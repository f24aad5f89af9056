/-
# What is parsed is UTF-8

Every string and every name of a value that cJSON reads from bytes in UTF-8 is in UTF-8, at
any depth.
-/

import CapacityAgent.CJson.PrintedText

namespace CapacityAgent.CJson

open Utf8 (Encoded)

/-- Whatever string is read somewhere in the bytes is in UTF-8. -/
def StringsEncoded (s : Bytes) : Prop := ∀ value, ReadIn s value → Encoded value.bytes

theorem stringsEncoded_of_encoded {s : Bytes} (encoded : Encoded s) : StringsEncoded s := by
  rintro value ⟨before, rest, left, rfl, read⟩
  exact encoded_of_parseString encoded read

theorem StringsEncoded.of_suffix {s t : Bytes} (strings : StringsEncoded s) (suffix : t <:+ s) :
    StringsEncoded t :=
  fun value readIn => strings value (readIn.of_suffix suffix)

theorem StringsEncoded.of_parseString {s left : Bytes} {value : CStr} (strings : StringsEncoded s)
    (read : parseString s = some (value, left)) : Encoded value.bytes :=
  strings value ⟨[], s, left, rfl, read⟩

/-- What is read with so much room is in UTF-8. -/
structure ReadsTextual (fuel : ℕ) : Prop where
  value : ∀ {depth s item left}, StringsEncoded s →
    parseValue fuel depth s = some (item, left) → item.Textual
  elements : ∀ {depth s items left}, StringsEncoded s →
    parseElements fuel depth s = some (items, left) → ElementsTextual items
  members : ∀ {depth s children left}, StringsEncoded s →
    parseMembers fuel depth s = some (children, left) → EntriesTextual children

section Step

variable {fuel : ℕ}

theorem elementsTextual_of_parseElements (reads : ReadsTextual fuel) {depth : ℕ} {s left : Bytes}
    {items : List Item} (strings : StringsEncoded s)
    (read : parseElements (fuel + 1) depth s = some (items, left)) : ElementsTextual items := by
  obtain ⟨item, after, next, more, parsed, skipped, goesOn⟩ := parseElements_eq_some.mp read
  have here := strings.of_suffix (skipWhitespace_suffix s)
  have first := reads.value here parsed
  rcases goesOn with ⟨-, later, others, rfl⟩ | ⟨-, rfl, -⟩
  · have behind := (here.of_suffix (suffix_of_parseValue parsed)).of_suffix
      (suffix_of_skipWhitespace skipped)
    exact ⟨first, reads.elements behind others⟩
  · exact ⟨first, trivial⟩

theorem entriesTextual_of_parseMembers (reads : ReadsTextual fuel) {depth : ℕ} {s left : Bytes}
    {children : List (CStr × Item)} (strings : StringsEncoded s)
    (read : parseMembers (fuel + 1) depth s = some (children, left)) :
    EntriesTextual children := by
  obtain ⟨name, afterName, text, item, after, next, more, named, colon, parsed, skipped,
    goesOn⟩ := parseMembers_eq_some.mp read
  have here := strings.of_suffix (skipWhitespace_suffix s)
  have value := ((here.of_suffix (suffix_of_parseString named)).of_suffix
    (suffix_of_skipWhitespace colon)).of_suffix (skipWhitespace_suffix text)
  have name' := here.of_parseString named
  have first := reads.value value parsed
  rcases goesOn with ⟨-, later, others, rfl⟩ | ⟨-, rfl, -⟩
  · have behind := (value.of_suffix (suffix_of_parseValue parsed)).of_suffix
      (suffix_of_skipWhitespace skipped)
    exact ⟨name', first, reads.members behind others⟩
  · exact ⟨name', first, trivial⟩

/-- An array or object, empty or not. -/
theorem textual_of_afterBracket {α : Type} {close : UInt8}
    {loop : Bytes → Option (List α × Bytes)} (item : List α → Item)
    {inner left : Bytes} {value : Item} (empty : (item []).Textual)
    (entries : ∀ {s found left}, StringsEncoded s → loop s = some (found, left) →
      (item found).Textual)
    (strings : StringsEncoded inner)
    (read : afterBracket close loop item inner = some (value, left)) : value.Textual := by
  unfold afterBracket at read
  cases skipped : skipWhitespace inner with
  | nil => simp [skipped] at read
  | cons next more =>
    rw [skipped] at read
    dsimp only at read
    split_ifs at read with closed
    · obtain rfl := (Prod.mk.inj (Option.some.inj read)).1
      exact empty
    · obtain ⟨⟨found, left'⟩, looped, same⟩ := Option.map_eq_some_iff.mp read
      obtain rfl := (Prod.mk.inj same).1
      exact entries (strings.of_suffix (skipped ▸ skipWhitespace_suffix inner)) looped

theorem textual_of_literal {word left left' : Bytes} {item : Item} {depth : ℕ}
    (listed : word ∈ [lit "null", lit "true", lit "false"])
    (read : parseValue (fuel + 1) depth (word ++ left) = some (item, left')) : item.Textual := by
  simp only [List.mem_cons, List.not_mem_nil, or_false] at listed
  have literal (item' : Item) (textual : item'.Textual)
      (read' : parseValue (fuel + 1) depth (word ++ left) = some (item', left)) :
      item.Textual := by
    obtain rfl := (Prod.mk.inj (Option.some.inj (read'.symm.trans read))).1
    exact textual
  rcases listed with rfl | rfl | rfl
  · exact literal .null trivial rfl
  · exact literal (.bool true) trivial rfl
  · exact literal (.bool false) trivial rfl

theorem textual_of_parseValue (reads : ReadsTextual fuel) {depth : ℕ} {s left : Bytes}
    {item : Item} (strings : StringsEncoded s)
    (read : parseValue (fuel + 1) depth s = some (item, left)) : item.Textual := by
  cases valueRead_of_parseValue read with
  | literal listed other => exact textual_of_literal listed read
  | string read => exact strings.of_parseString read
  | number read => exact trivial
  | @array inner _ _ read =>
    exact textual_of_afterBracket Item.array trivial reads.elements
      (strings.of_suffix (List.suffix_cons _ inner)) read
  | @object inner _ _ read =>
    exact textual_of_afterBracket Item.object trivial reads.members
      (strings.of_suffix (List.suffix_cons _ inner)) read

end Step

theorem readsTextual (fuel : ℕ) : ReadsTextual fuel := by
  induction fuel with
  | zero =>
    refine ⟨fun _ read => ?_, fun _ read => ?_, fun _ read => ?_⟩
    · exact absurd read (by simp [parseValue])
    · exact absurd read (by simp [parseElements])
    · exact absurd read (by simp [parseMembers])
  | succ fuel ih =>
    exact ⟨textual_of_parseValue ih, elementsTextual_of_parseElements ih,
      entriesTextual_of_parseMembers ih⟩

/-- **What is parsed from a line in UTF-8 is in UTF-8.** -/
theorem textual_of_parse {line : Bytes} (encoded : Encoded line) {root : Item}
    (read : parse (CStr.ofBytes line) = some root) : root.Textual := by
  obtain ⟨⟨root', left⟩, found, same⟩ := Option.map_eq_some_iff.mp read
  obtain rfl : root' = root := same
  obtain ⟨mark, rest, splits, unmarked⟩ := exists_skipUtf8Bom (CStr.ofBytes line)
  have start : skipUtf8Bom (content (CStr.ofBytes line)) <:+ content (CStr.ofBytes line) :=
    ⟨mark, by rw [unmarked, content, splits, List.append_assoc]⟩
  have terminated : Encoded (content (CStr.ofBytes line)) :=
    encoded.takeWhile_ne_zero.append (Utf8.encoded_char '\x00')
  have strings := (stringsEncoded_of_encoded terminated).of_suffix
    ((skipWhitespace_suffix _).trans start)
  exact (readsTextual _).value strings found

theorem textual_of_getObjectItem {root item : Item} {key : CStr} (textual : root.Textual)
    (found : getObjectItemCaseSensitive root key = some item) : item.Textual := by
  unfold getObjectItemCaseSensitive at found
  split at found
  next children =>
    obtain ⟨child, search, rfl⟩ := Option.map_eq_some_iff.mp found
    exact (entriesTextual_iff.mp textual child (List.mem_of_find?_eq_some search)).2
  next => exact absurd found (by simp)

end CapacityAgent.CJson
