/-
# What printed items say

`cJSON_PrintUnformatted` writes an item whose strings are UTF-8 as a JSON text, and the text
says the item: its strings byte for byte, its numbers as they are shown, infinities as null.
`cJSON_Parse` reads the same back, when the nesting is within its limit, but for the rounding of
the numbers shown.
-/

import CapacityAgent.CJson.Formatting
import CapacityAgent.Store.FaithfulExtraJson

namespace CapacityAgent.CJson

open Binary64 (IsInfinite held)
open Json (Datum Denotes Value)
open Utf8 (Encoded)

/-! ## Items -/

/-- The value a number is written as. -/
def numberValue (d : Double) : Value := if IsInfinite d then .null else .number (numberText d)

/-- What the text of a number says. -/
def numberShown (d : Double) : Datum := if IsInfinite d then .null else .number (shownNumber d)

/-- What `cJSON_Parse` makes of the text of a number. -/
def numberReread (d : Double) : Item :=
  if IsInfinite d then .null else .number (held (shownNumber d))

mutual

/-- All strings and names are in UTF-8. -/
def Item.Textual : Item → Prop
  | .null | .bool _ | .number _ => True
  | .string valuestring => Encoded valuestring.bytes
  | .array children => ElementsTextual children
  | .object children => EntriesTextual children

def ElementsTextual : List Item → Prop
  | [] => True
  | item :: rest => item.Textual ∧ ElementsTextual rest

def EntriesTextual : List (CStr × Item) → Prop
  | [] => True
  | (name, item) :: rest => Encoded name.bytes ∧ item.Textual ∧ EntriesTextual rest

end

mutual

/-- What the text of an item says. -/
def Item.shown : Item → Datum
  | .null => .null
  | .bool value => .bool value
  | .number valuedouble => numberShown valuedouble
  | .string valuestring => .string valuestring.bytes
  | .array children => .array (elementsShown children)
  | .object children => .object (entriesShown children)

def elementsShown : List Item → List Datum
  | [] => []
  | item :: rest => item.shown :: elementsShown rest

def entriesShown : List (CStr × Item) → List (Bytes × Datum)
  | [] => []
  | (name, item) :: rest => (name.bytes, item.shown) :: entriesShown rest

end

mutual

/-- All numbers are numbers of a `double`, or infinite. -/
def Item.Doubles : Item → Prop
  | .null | .bool _ | .string _ => True
  | .number valuedouble => IsDouble valuedouble ∨ IsInfinite valuedouble
  | .array children => ElementsDoubles children
  | .object children => EntriesDoubles children

def ElementsDoubles : List Item → Prop
  | [] => True
  | item :: rest => item.Doubles ∧ ElementsDoubles rest

def EntriesDoubles : List (CStr × Item) → Prop
  | [] => True
  | (_, item) :: rest => item.Doubles ∧ EntriesDoubles rest

end

mutual

/-- How deeply arrays and objects are nested. -/
def Item.depth : Item → ℕ
  | .null | .bool _ | .number _ | .string _ => 0
  | .array children => elementsDepth children + 1
  | .object children => entriesDepth children + 1

def elementsDepth : List Item → ℕ
  | [] => 0
  | item :: rest => max item.depth (elementsDepth rest)

def entriesDepth : List (CStr × Item) → ℕ
  | [] => 0
  | (_, item) :: rest => max item.depth (entriesDepth rest)

end

mutual

/-- The item with what is read of the numbers that are shown. -/
def Item.reread : Item → Item
  | .null => .null
  | .bool value => .bool value
  | .number valuedouble => numberReread valuedouble
  | .string valuestring => .string valuestring
  | .array children => .array (elementsReread children)
  | .object children => .object (entriesReread children)

def elementsReread : List Item → List Item
  | [] => []
  | item :: rest => item.reread :: elementsReread rest

def entriesReread : List (CStr × Item) → List (CStr × Item)
  | [] => []
  | (name, item) :: rest => (name, item.reread) :: entriesReread rest

end

/-- An integer of fifteen digits is written as it is. -/
theorem numberShown_intCast {n : ℤ} (small : |n| < 10 ^ 15) : numberShown n = .number n := by
  have bound : |(n : ℚ)| < 10 ^ 15 := by exact_mod_cast small
  have finite : ¬ IsInfinite n :=
    not_le.mpr (bound.trans (show (10 : ℚ) ^ 15 < 2 ^ 1024 by decide +kernel))
  rw [numberShown, if_neg finite, shownNumber_intCast small]

theorem elementsTextual_iff {items : List Item} :
    ElementsTextual items ↔ ∀ item ∈ items, item.Textual := by
  induction items with
  | nil => simp [ElementsTextual]
  | cons item rest ih => simp [ElementsTextual, ih]

theorem entriesTextual_iff {children : List (CStr × Item)} :
    EntriesTextual children ↔
      ∀ child ∈ children, Encoded child.1.bytes ∧ child.2.Textual := by
  induction children with
  | nil => simp [EntriesTextual]
  | cons child rest ih => simp [EntriesTextual, ih, and_assoc]

theorem elementsShown_eq (items : List Item) : elementsShown items = items.map Item.shown := by
  induction items with
  | nil => rfl
  | cons item rest ih => exact congrArg (item.shown :: ·) ih

/-! ## Texts -/

theorem printNumber_formatDouble {d : Double} (finite : ¬ IsInfinite d) :
    printNumber formatDouble d = (numberText d).text := by
  rw [printNumber, if_neg finite, numberText]
  split_ifs
  · exact decimal_eq_text _
  · rfl

/-- The value that is written as the item is printed. -/
structure Writes (item : Item) (v : Value) : Prop where
  text : printValue formatDouble item = v.text encoder
  said : v.said = item.shown
  read : itemOf v = item.reread
  depth : v.depth = item.depth
  fits : item.Doubles → Fits v

/-- The member that is written as the child is printed. -/
def WritesEntry (child : CStr × Item) (entry : List Char × Value) : Prop :=
  Utf8.encode entry.1 = child.1.bytes ∧ Writes child.2 entry.2

theorem printString_of_encode {name : CStr} {chars : List Char}
    (encodes : Utf8.encode chars = name.bytes) :
    printString name = Json.stringText encoder chars := by
  rw [printString, ← encodes, Json.stringText, Utf8.encode, List.flatMap_assoc]
  rfl

theorem ofBytes_encode {name : CStr} {chars : List Char}
    (encodes : Utf8.encode chars = name.bytes) : CStr.ofBytes (Utf8.encode chars) = name := by
  rw [encodes, CStr.ofBytes_bytes]

theorem printElements_of_writes {items : List Item} {values : List Value}
    (writes : List.Forall₂ Writes items values) :
    printElements formatDouble items = Value.itemsText encoder values := by
  induction writes with
  | nil => rfl
  | @cons item v rest others first later ih =>
    cases later with
    | nil => exact first.text
    | @cons next v' rest others _ _ =>
      calc printElements formatDouble (item :: next :: rest)
          = printValue formatDouble item ++
              byte ',' :: printElements formatDouble (next :: rest) := rfl
        _ = v.text encoder ++ byte ',' :: Value.itemsText encoder (v' :: others) := by
            rw [first.text, ih]

theorem printMembers_of_writes {children : List (CStr × Item)}
    {members : List (List Char × Value)} (writes : List.Forall₂ WritesEntry children members) :
    printMembers formatDouble children = Value.membersText encoder members := by
  induction writes with
  | nil => rfl
  | @cons child entry rest others first later ih =>
    have name := printString_of_encode first.1
    cases later with
    | nil => rw [printMembers, name, first.2.text, Value.membersText]
    | @cons next entry' rest others _ _ =>
      calc printMembers formatDouble (child :: next :: rest)
          = printString child.1 ++ byte ':' :: (printValue formatDouble child.2 ++
              byte ',' :: printMembers formatDouble (next :: rest)) := rfl
        _ = Json.stringText encoder entry.1 ++ byte ':' :: (entry.2.text encoder ++
              byte ',' :: Value.membersText encoder (entry' :: others)) := by
            rw [name, first.2.text, ih]

theorem Writes.array {items : List Item} {values : List Value}
    (writes : List.Forall₂ Writes items values) : Writes (.array items) (.array values) := by
  have text := printElements_of_writes writes
  have each : Value.itemsSaid values = elementsShown items ∧
      itemsOf values = elementsReread items ∧ Value.itemsDepth values = elementsDepth items ∧
      (ElementsDoubles items → ItemsFit values) := by
    clear text
    induction writes with
    | nil => exact ⟨rfl, rfl, rfl, id⟩
    | cons first _ ih =>
      obtain ⟨said, items, depth, fits⟩ := ih
      exact ⟨congrArg₂ List.cons first.said said, congrArg₂ List.cons first.read items,
        congrArg₂ max first.depth depth, fun doubles => ⟨first.fits doubles.1, fits doubles.2⟩⟩
  obtain ⟨said, items, depth, fits⟩ := each
  exact
    { text := congrArg (fun text => byte '[' :: (text ++ [byte ']'])) text
      said := congrArg Datum.array said
      read := congrArg Item.array items
      depth := congrArg (· + 1) depth
      fits }

theorem Writes.object {children : List (CStr × Item)} {members : List (List Char × Value)}
    (writes : List.Forall₂ WritesEntry children members) :
    Writes (.object children) (.object members) := by
  have text := printMembers_of_writes writes
  have each : Value.membersSaid members = entriesShown children ∧
      membersOf members = entriesReread children ∧
      Value.membersDepth members = entriesDepth children ∧
      (EntriesDoubles children → MembersFit members) := by
    clear text
    induction writes with
    | nil => exact ⟨rfl, rfl, rfl, id⟩
    | cons first _ ih =>
      obtain ⟨said, items, depth, fits⟩ := ih
      obtain ⟨name, first⟩ := first
      exact ⟨congrArg₂ List.cons (Prod.ext name first.said) said,
        congrArg₂ List.cons (Prod.ext (ofBytes_encode name) first.read) items,
        congrArg₂ max first.depth depth, fun doubles => ⟨first.fits doubles.1, fits doubles.2⟩⟩
  obtain ⟨said, items, depth, fits⟩ := each
  exact
    { text := congrArg (fun text => byte '{' :: (text ++ [byte '}'])) text
      said := congrArg Datum.object said
      read := congrArg Item.object items
      depth := congrArg (· + 1) depth
      fits }

theorem Writes.string {value : CStr} {chars : List Char}
    (encodes : Utf8.encode chars = value.bytes) : Writes (.string value) (.string chars) where
  text := printString_of_encode encodes
  said := congrArg Datum.string encodes
  read := congrArg Item.string (ofBytes_encode encodes)
  depth := rfl
  fits _ := trivial

theorem Writes.number (d : Double) : Writes (.number d) (numberValue d) := by
  by_cases infinite : IsInfinite d
  · have text : printNumber formatDouble d = lit "null" := if_pos infinite
    have said : numberShown d = .null := if_pos infinite
    have read : numberReread d = .null := if_pos infinite
    rw [numberValue, if_pos infinite]
    exact ⟨text, said.symm, read.symm, rfl, fun _ => trivial⟩
  · have said : numberShown d = .number (numberText d).value := by
      rw [numberShown, if_neg infinite, value_numberText]
    have read : numberReread d = .number (held (numberText d).value) := by
      rw [numberReread, if_neg infinite, value_numberText]
    rw [numberValue, if_neg infinite]
    refine ⟨printNumber_formatDouble infinite, said.symm, read.symm, rfl, fun double => ?_⟩
    exact (length_numberText_le (double.resolve_right infinite)).trans (by decide)

mutual

theorem exists_writes : (item : Item) → item.Textual → ∃ v, Writes item v
  | .null, _ => ⟨.null, rfl, rfl, rfl, rfl, id⟩
  | .bool true, _ => ⟨.bool true, rfl, rfl, rfl, rfl, id⟩
  | .bool false, _ => ⟨.bool false, rfl, rfl, rfl, rfl, id⟩
  | .number d, _ => ⟨numberValue d, .number d⟩
  | .string _, ⟨chars, encodes⟩ => ⟨.string chars, .string encodes⟩
  | .array items, textual =>
    have ⟨values, writes⟩ := exists_writesEach items textual
    ⟨.array values, .array writes⟩
  | .object children, textual =>
    have ⟨members, writes⟩ := exists_writesEntries children textual
    ⟨.object members, .object writes⟩

theorem exists_writesEach : (items : List Item) → ElementsTextual items →
    ∃ values, List.Forall₂ Writes items values
  | [], _ => ⟨[], .nil⟩
  | item :: rest, textual =>
    have ⟨v, first⟩ := exists_writes item textual.1
    have ⟨values, later⟩ := exists_writesEach rest textual.2
    ⟨v :: values, .cons first later⟩

theorem exists_writesEntries : (children : List (CStr × Item)) → EntriesTextual children →
    ∃ members, List.Forall₂ WritesEntry children members
  | [], _ => ⟨[], .nil⟩
  | (_, item) :: rest, ⟨⟨chars, encodes⟩, textual, others⟩ =>
    have ⟨v, first⟩ := exists_writes item textual
    have ⟨members, later⟩ := exists_writesEntries rest others
    ⟨(chars, v) :: members, .cons ⟨encodes, first⟩ later⟩

end

/-- The printed text is that of the value. -/
theorem printUnformatted_of_writes {item : Item} {v : Value} (writes : Writes item v) :
    printUnformatted formatDouble item = document encoder v := by
  -- a JSON text holds no NUL, so the C string is all of it
  have whole := CStr.ofBytes_bytes_of_notMem (nul_notMem_text encoder v)
  refine CStr.ext ?_
  rw [printUnformatted, writes.text, whole, document]

/-- What is printed is a JSON text and says the item. -/
theorem denotes_printUnformatted {item : Item} (textual : item.Textual) :
    Denotes (printUnformatted formatDouble item).bytes item.shown := by
  obtain ⟨v, writes⟩ := exists_writes item textual
  rw [printUnformatted_of_writes writes, ← writes.said]
  exact Json.denotes_text encoder v

/-! ## Reading back -/

/-- **What is printed is JSON, says the item and is read back** by `cJSON_Parse`, which rounds
the numbers that were shown. -/
theorem parse_printUnformatted {item : Item} (textual : item.Textual) (doubles : item.Doubles)
    (shallow : item.depth ≤ nestingLimit) :
    Denotes (printUnformatted formatDouble item).bytes item.shown ∧
      parse (printUnformatted formatDouble item) = some item.reread := by
  obtain ⟨v, writes⟩ := exists_writes item textual
  have within : v.depth ≤ nestingLimit := writes.depth.trans_le shallow
  refine ⟨denotes_printUnformatted textual, ?_⟩
  rw [printUnformatted_of_writes writes, ← writes.read]
  exact parse_document encoder (writes.fits doubles) within

/-- An item with a quote, a control character and a number that has no short decimal. -/
def printedItem : Item :=
  .object [(text "a\"b", .array [.number (6004799503160661 / 2 ^ 54), .string (text "\n")])]

theorem parse_printedItem :
    Denotes (printUnformatted formatDouble printedItem).bytes printedItem.shown ∧
      parse (printUnformatted formatDouble printedItem) = some printedItem.reread := by
  refine parse_printUnformatted ?_ ?_ (by decide)
  · exact ⟨⟨"a\"b".toList, by decide⟩, ⟨trivial, ⟨⟨"\n".toList, by decide⟩, trivial⟩⟩, trivial⟩
  · have third : IsDouble (6004799503160661 / 2 ^ 54) := by decide +kernel
    exact ⟨⟨.inl third, trivial, trivial⟩, trivial⟩

/-- **The number buffer is not overrun**: a number of a `double` and its terminator take 25
bytes at most of the 26. -/
theorem length_printNumber_lt {d : Double} (double : IsDouble d) :
    (printNumber formatDouble d).length < 25 := by
  rw [printNumber_formatDouble (not_le.mpr double.abs_lt)]
  exact Nat.lt_succ_of_le (length_numberText_le double)

/-- The negative number next to zero. -/
theorem length_printNumber_least : (printNumber formatDouble (-(1 / 2 ^ 1074))).length < 25 :=
  length_printNumber_lt (by decide +kernel)

end CapacityAgent.CJson
