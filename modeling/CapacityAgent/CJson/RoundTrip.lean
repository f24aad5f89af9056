/-
# cJSON reads what a JSON writer writes

On the compact text of a value, by whatever encoder, `cJSON_Parse` returns the item of
that value, provided its numbers fit the number buffer and it is not nested too
deeply.
-/

import CapacityAgent.CJson.Numbers
import CapacityAgent.CJson.Strings

namespace CapacityAgent.CJson

open Json (Encoder Value Number stringText)

/-! ## Items of values -/

mutual

/-- The item cJSON has for a value. -/
def itemOf : Value → Item
  | .null => .null
  | .bool b => .bool b
  | .number n => .number (Binary64.held n.value)
  | .string chars => .string (CStr.ofBytes (Utf8.encode chars))
  | .array items => .array (itemsOf items)
  | .object members => .object (membersOf members)

def itemsOf : List Value → List Item
  | [] => []
  | value :: rest => itemOf value :: itemsOf rest

def membersOf : List (List Char × Value) → List (CStr × Item)
  | [] => []
  | (name, value) :: rest =>
    (CStr.ofBytes (Utf8.encode name), itemOf value) :: membersOf rest

end

mutual

/-- Every number of the value fits the number buffer. -/
def Fits : Value → Prop
  | .number n => n.text.length ≤ 63
  | .array items => ItemsFit items
  | .object members => MembersFit members
  | .null | .bool _ | .string _ => True

def ItemsFit : List Value → Prop
  | [] => True
  | value :: rest => Fits value ∧ ItemsFit rest

def MembersFit : List (List Char × Value) → Prop
  | [] => True
  | (_, value) :: rest => Fits value ∧ MembersFit rest

end

theorem itemsFit_of_forall {items : List Value} (each : ∀ item ∈ items, Fits item) :
    ItemsFit items := by
  induction items with
  | nil => trivial
  | cons item rest ih =>
    exact ⟨each item List.mem_cons_self,
      ih fun later member => each later (List.mem_cons_of_mem item member)⟩

theorem membersFit_of_forall {members : List (List Char × Value)}
    (each : ∀ member ∈ members, Fits member.2) : MembersFit members := by
  induction members with
  | nil => trivial
  | cons member rest ih =>
    exact ⟨each member List.mem_cons_self,
      ih fun later inRest => each later (List.mem_cons_of_mem member inRest)⟩

/-! ## How a text begins -/

/-- The bytes begin with an ASCII byte that is neither white space nor a closing bracket. -/
def Starts (bytes : Bytes) : Prop :=
  ∃ b more, bytes = b :: more ∧ 32 < b ∧ b ≠ byte ']' ∧ b ≠ byte '}' ∧ b < 128

theorem Starts.append {bytes : Bytes} (starts : Starts bytes) (rest : Bytes) :
    Starts (bytes ++ rest) := by
  obtain ⟨b, more, rfl, visible⟩ := starts
  exact ⟨b, more ++ rest, rfl, visible⟩

theorem skipWhitespace_cons {b : UInt8} (visible : 32 < b) (rest : Bytes) :
    skipWhitespace (b :: rest) = b :: rest := by
  have stops : ¬ b ≤ 32 := UInt8.not_le.mpr visible
  simp [skipWhitespace, stops]

theorem skipWhitespace_of_starts {bytes : Bytes} (starts : Starts bytes) (rest : Bytes) :
    skipWhitespace (bytes ++ rest) = bytes ++ rest := by
  obtain ⟨b, more, rfl, visible, -⟩ := starts
  exact skipWhitespace_cons visible (more ++ rest)

theorem starts_stringText (encoder : Encoder) (chars : List Char) :
    Starts (stringText encoder chars) := ⟨byte '"', _, rfl, by decide⟩

theorem starts_text (encoder : Encoder) (v : Value) : Starts (v.text encoder) := by
  cases v with
  | null => exact ⟨byte 'n', lit "ull", rfl, by decide⟩
  | bool b =>
    cases b with
    | true => exact ⟨byte 't', lit "rue", rfl, by decide⟩
    | false => exact ⟨byte 'f', lit "alse", rfl, by decide⟩
  | number n =>
    obtain ⟨b, more, begins, sign | digit⟩ := exists_number_text_eq_cons n
    · exact ⟨b, more, begins, by rw [sign]; decide⟩
    · have low : byte '0' ≤ b ∧ b ≤ byte '9' := by simpa [isDigit] using digit
      refine ⟨b, more, begins, UInt8.lt_of_lt_of_le (by decide) low.1, ?_, ?_,
        UInt8.lt_of_le_of_lt low.2 (by decide)⟩
      · rintro rfl
        exact absurd low.2 (by decide)
      · rintro rfl
        exact absurd low.2 (by decide)
  | string chars => exact starts_stringText encoder chars
  | array items => exact ⟨byte '[', _, rfl, by decide⟩
  | object members => exact ⟨byte '{', _, rfl, by decide⟩

theorem starts_itemsText (encoder : Encoder) {items : List Value} (nonempty : items ≠ []) :
    Starts (Value.itemsText encoder items) := by
  match items with
  | [item] => exact starts_text encoder item
  | item :: next :: rest => exact (starts_text encoder item).append _

theorem starts_membersText (encoder : Encoder) {members : List (List Char × Value)}
    (nonempty : members ≠ []) : Starts (Value.membersText encoder members) := by
  match members with
  | [(name, value)] => exact (starts_stringText encoder name).append _
  | (name, value) :: next :: rest => exact (starts_stringText encoder name).append _

/-! ## Values -/

theorem parseValue_string (fuel depth : ℕ) (inner : Bytes) :
    parseValue (fuel + 1) depth (byte '"' :: inner) =
      (parseString (byte '"' :: inner)).map fun parsed => (.string parsed.1, parsed.2) := rfl

theorem parseValue_number (fuel depth : ℕ) {first : UInt8}
    (number : first = byte '-' ∨ isDigit first = true) (inner : Bytes) :
    parseValue (fuel + 1) depth (first :: inner) =
      (parseNumber (first :: inner)).map fun parsed => (.number parsed.1, parsed.2) := by
  -- the other kinds of values begin with other bytes
  have other : ∀ b, b ≠ byte '-' → isDigit b = false → first ≠ b := by
    rintro b notMinus notDigit rfl
    rcases number with minus | digit
    · exact notMinus minus
    · exact absurd digit (by simp [notDigit])
  have literal : ∀ (n : ℕ) (b : UInt8) (more : Bytes), b ≠ byte '-' → isDigit b = false →
      (first :: inner).take (n + 1) ≠ b :: more := fun n b more notMinus notDigit same =>
    other b notMinus notDigit (List.cons.inj same).1
  have notNull : (first :: inner).take 4 ≠ lit "null" :=
    literal 3 (byte 'n') (lit "ull") (by decide) (by decide)
  have notFalse : (first :: inner).take 5 ≠ lit "false" :=
    literal 4 (byte 'f') (lit "alse") (by decide) (by decide)
  have notTrue : (first :: inner).take 4 ≠ lit "true" :=
    literal 3 (byte 't') (lit "rue") (by decide) (by decide)
  rw [parseValue, if_neg notNull, if_neg notFalse, if_neg notTrue]
  simp only [if_neg (other (byte '"') (by decide) (by decide)), if_pos number]

/-- What `parse_array` and `parse_object` do behind the opening bracket. -/
def afterBracket {α : Type*} (close : UInt8) (loop : Bytes → Option (List α × Bytes))
    (item : List α → Item) (inner : Bytes) : Option (Item × Bytes) :=
  match skipWhitespace inner with
  | [] => none
  | next :: more =>
    if next = close then some (item [], more)
    else (loop (next :: more)).map fun parsed => (item parsed.1, parsed.2)

theorem afterBracket_cons {α : Type*} (close : UInt8) (loop : Bytes → Option (List α × Bytes))
    (item : List α → Item) {next : UInt8} (visible : 32 < next) (more : Bytes) :
    afterBracket close loop item (next :: more) =
      if next = close then some (item [], more)
      else (loop (next :: more)).map fun parsed => (item parsed.1, parsed.2) := by
  unfold afterBracket
  rw [skipWhitespace_cons visible]

theorem parseValue_bracket (fuel depth : ℕ) (inner : Bytes) :
    parseValue (fuel + 1) depth (byte '[' :: inner) =
      if nestingLimit ≤ depth then none
      else afterBracket (byte ']') (parseElements fuel (depth + 1)) .array inner := rfl

theorem parseValue_brace (fuel depth : ℕ) (inner : Bytes) :
    parseValue (fuel + 1) depth (byte '{' :: inner) =
      if nestingLimit ≤ depth then none
      else afterBracket (byte '}') (parseMembers fuel (depth + 1)) .object inner := rfl

theorem parseValue_array {fuel depth : ℕ} (shallow : depth < nestingLimit) {next : UInt8}
    (visible : 32 < next) (more : Bytes) :
    parseValue (fuel + 1) depth (byte '[' :: next :: more) =
      if next = byte ']' then some (.array [], more)
      else
        (parseElements fuel (depth + 1) (next :: more)).map fun parsed =>
          (.array parsed.1, parsed.2) := by
  rw [parseValue_bracket, if_neg (Nat.not_le.mpr shallow), afterBracket_cons _ _ _ visible]

theorem parseValue_object {fuel depth : ℕ} (shallow : depth < nestingLimit) {next : UInt8}
    (visible : 32 < next) (more : Bytes) :
    parseValue (fuel + 1) depth (byte '{' :: next :: more) =
      if next = byte '}' then some (.object [], more)
      else
        (parseMembers fuel (depth + 1) (next :: more)).map fun parsed =>
          (.object parsed.1, parsed.2) := by
  rw [parseValue_brace, if_neg (Nat.not_le.mpr shallow), afterBracket_cons _ _ _ visible]

/-- An element before a comma or the closing bracket. -/
theorem parseElements_step {fuel depth : ℕ} {bytes after : Bytes} {item : Item} {next : UInt8}
    (starts : Starts bytes) (visible : 32 < next)
    (parsed : parseValue fuel depth (bytes ++ next :: after) = some (item, next :: after)) :
    parseElements (fuel + 1) depth (bytes ++ next :: after) =
      if next = byte ',' then
        (parseElements fuel depth after).map fun parsed => (item :: parsed.1, parsed.2)
      else if next = byte ']' then some ([item], after)
      else none := by
  rw [parseElements, skipWhitespace_of_starts starts]
  simp only [parsed, skipWhitespace_cons visible]

/-- A member before a comma or the closing brace. -/
theorem parseMembers_step {fuel depth : ℕ} (encoder : Encoder) (name : List Char)
    {bytes after : Bytes} {item : Item} {next : UInt8} (starts : Starts bytes)
    (visible : 32 < next)
    (parsed : parseValue fuel depth (bytes ++ next :: after) = some (item, next :: after)) :
    parseMembers (fuel + 1) depth
        (stringText encoder name ++ byte ':' :: (bytes ++ next :: after)) =
      if next = byte ',' then
        (parseMembers fuel depth after).map fun parsed =>
          ((CStr.ofBytes (Utf8.encode name), item) :: parsed.1, parsed.2)
      else if next = byte '}' then some ([(CStr.ofBytes (Utf8.encode name), item)], after)
      else none := by
  have colon : skipWhitespace (byte ':' :: (bytes ++ next :: after)) =
      byte ':' :: (bytes ++ next :: after) := skipWhitespace_cons (by decide) _
  rw [parseMembers, skipWhitespace_of_starts (starts_stringText encoder name),
    parseString_text]
  simp only [colon, ne_eq, not_true_eq_false, if_false, skipWhitespace_of_starts starts, parsed,
    skipWhitespace_cons visible]

section Text

variable (encoder : Encoder)

mutual

/-- `parse_value` reads the text of a value. -/
theorem parseValue_text : ∀ (v : Value) {fuel depth : ℕ} {rest : Bytes}, Fits v →
    2 * (v.text encoder).length ≤ fuel → depth + v.depth ≤ nestingLimit → Delimits rest →
    parseValue fuel depth (v.text encoder ++ rest) = some (itemOf v, rest)
  | .null, fuel + 1, depth, rest, _, _, _, _ => rfl
  | .bool true, fuel + 1, depth, rest, _, _, _, _ => rfl
  | .bool false, fuel + 1, depth, rest, _, _, _, _ => rfl
  | .number n, fuel + 1, depth, rest, fits, _, _, ends => by
    obtain ⟨b, more, begins, kind⟩ := exists_number_text_eq_cons n
    have read := parseNumber_text fits ends
    simp only [Value.text, begins, List.cons_append] at read ⊢
    rw [parseValue_number fuel depth kind, read]
    rfl
  | .string chars, fuel + 1, depth, rest, _, _, _, _ => by
    have read := parseString_text encoder chars rest
    have begins : (Value.string chars).text encoder ++ rest = byte '"' :: _ := rfl
    rw [begins, parseValue_string]
    exact congrArg _ read
  | .array [], fuel + 1, depth, rest, _, _, shallow, _ =>
    parseValue_array (by simp [Value.depth] at shallow; omega) (by decide) rest
  | .array (item :: items), fuel + 1, depth, rest, fits, enough, shallow, _ => by
    -- the loop has two bytes less to read and one level less to nest
    have nonempty : item :: items ≠ [] := List.cons_ne_nil item items
    simp only [Value.text, List.length_cons, List.length_append] at enough
    simp only [Value.depth] at shallow
    have parsed : parseElements fuel (depth + 1)
        (Value.itemsText encoder (item :: items) ++ byte ']' :: rest) =
          some (itemsOf (item :: items), rest) :=
      parseElements_text (item :: items) nonempty fits (by omega) (by omega)
    obtain ⟨b, more, begins, visible, notEnd, -⟩ := starts_itemsText encoder nonempty
    have whole : (Value.array (item :: items)).text encoder ++ rest =
        byte '[' :: b :: (more ++ byte ']' :: rest) := by
      simp [Value.text, begins]
    rw [begins, List.cons_append] at parsed
    rw [whole, parseValue_array (by omega) visible, if_neg notEnd, parsed]
    rfl
  | .object [], fuel + 1, depth, rest, _, _, shallow, _ =>
    parseValue_object (by simp only [Value.depth] at shallow; omega) (by decide) rest
  | .object (member :: members), fuel + 1, depth, rest, fits, enough, shallow, _ => by
    have nonempty : member :: members ≠ [] := List.cons_ne_nil member members
    simp only [Value.text, List.length_cons, List.length_append] at enough
    simp only [Value.depth] at shallow
    have parsed : parseMembers fuel (depth + 1)
        (Value.membersText encoder (member :: members) ++ byte '}' :: rest) =
          some (membersOf (member :: members), rest) :=
      parseMembers_text (member :: members) nonempty fits (by omega) (by omega)
    obtain ⟨b, more, begins, visible, -, notEnd, -⟩ := starts_membersText encoder nonempty
    have whole : (Value.object (member :: members)).text encoder ++ rest =
        byte '{' :: b :: (more ++ byte '}' :: rest) := by
      simp [Value.text, begins]
    rw [begins, List.cons_append] at parsed
    rw [whole, parseValue_object (by omega) visible, if_neg notEnd, parsed]
    rfl
  | v, 0, _, _, _, enough, _, _ => by
    -- every text has a byte, so the bound is not zero
    obtain ⟨b, more, begins, -⟩ := starts_text encoder v
    rw [begins] at enough
    exact absurd enough (by simp)

/-- The loop of `parse_array` reads the elements, each of them before a delimiter. -/
theorem parseElements_text : ∀ (items : List Value) {fuel depth : ℕ} {rest : Bytes},
    items ≠ [] → ItemsFit items → 2 * (Value.itemsText encoder items).length + 1 ≤ fuel →
    depth + Value.itemsDepth items ≤ nestingLimit →
    parseElements fuel depth (Value.itemsText encoder items ++ byte ']' :: rest) =
      some (itemsOf items, rest)
  | [], _, _, _, nonempty, _, _, _ => absurd rfl nonempty
  | [item], fuel + 1, depth, rest, _, fits, enough, shallow => by
    simp only [Value.itemsText] at enough
    simp only [Value.itemsDepth] at shallow
    have parsed : parseValue fuel depth (item.text encoder ++ byte ']' :: rest) =
        some (itemOf item, byte ']' :: rest) :=
      parseValue_text item fits.1 (by omega) (by omega) (by simp [Delimits]; decide)
    rw [Value.itemsText, parseElements_step (starts_text encoder item) (by decide) parsed,
      if_neg (by decide), if_pos rfl]
    rfl
  | item :: next :: more, fuel + 1, depth, rest, _, fits, enough, shallow => by
    simp only [Value.itemsText, List.length_append, List.length_cons] at enough
    simp only [Value.itemsDepth] at shallow
    have parsed : parseValue fuel depth (item.text encoder ++
          byte ',' :: (Value.itemsText encoder (next :: more) ++ byte ']' :: rest)) =
        some (itemOf item, byte ',' :: (Value.itemsText encoder (next :: more) ++
          byte ']' :: rest)) :=
      parseValue_text item fits.1 (by omega) (by omega) (by simp [Delimits]; decide)
    have later : parseElements fuel depth
        (Value.itemsText encoder (next :: more) ++ byte ']' :: rest) =
          some (itemsOf (next :: more), rest) :=
      parseElements_text (next :: more) (List.cons_ne_nil next more) fits.2 (by omega)
        (by simp only [Value.itemsDepth]; omega)
    rw [Value.itemsText, List.append_assoc, List.cons_append,
      parseElements_step (starts_text encoder item) (by decide) parsed, if_pos rfl, later]
    · rfl
    · exact fun empty => absurd empty (List.cons_ne_nil next more)
  | _, 0, _, _, _, _, enough, _ => absurd enough (by omega)

/-- The loop of `parse_object` reads the members. -/
theorem parseMembers_text : ∀ (members : List (List Char × Value)) {fuel depth : ℕ} {rest : Bytes},
    members ≠ [] → MembersFit members →
    2 * (Value.membersText encoder members).length + 1 ≤ fuel →
    depth + Value.membersDepth members ≤ nestingLimit →
    parseMembers fuel depth (Value.membersText encoder members ++ byte '}' :: rest) =
      some (membersOf members, rest)
  | [], _, _, _, nonempty, _, _, _ => absurd rfl nonempty
  | [(name, value)], fuel + 1, depth, rest, _, fits, enough, shallow => by
    simp only [Value.membersText, List.length_append, List.length_cons] at enough
    simp only [Value.membersDepth] at shallow
    have parsed : parseValue fuel depth (value.text encoder ++ byte '}' :: rest) =
        some (itemOf value, byte '}' :: rest) :=
      parseValue_text value fits.1 (by omega) (by omega) (by simp [Delimits]; decide)
    rw [Value.membersText, List.append_assoc, List.cons_append,
      parseMembers_step encoder name (starts_text encoder value) (by decide) parsed,
      if_neg (by decide), if_pos rfl]
    rfl
  | (name, value) :: next :: more, fuel + 1, depth, rest, _, fits, enough, shallow => by
    simp only [Value.membersText, List.length_append, List.length_cons] at enough
    simp only [Value.membersDepth] at shallow
    have parsed : parseValue fuel depth (value.text encoder ++
          byte ',' :: (Value.membersText encoder (next :: more) ++ byte '}' :: rest)) =
        some (itemOf value, byte ',' :: (Value.membersText encoder (next :: more) ++
          byte '}' :: rest)) :=
      parseValue_text value fits.1 (by omega) (by omega) (by simp [Delimits]; decide)
    have later : parseMembers fuel depth
        (Value.membersText encoder (next :: more) ++ byte '}' :: rest) =
          some (membersOf (next :: more), rest) :=
      parseMembers_text (next :: more) (List.cons_ne_nil next more) fits.2 (by omega)
        (by simp only [Value.membersDepth]; omega)
    rw [Value.membersText, List.append_assoc, List.cons_append, List.append_assoc,
      List.cons_append, parseMembers_step encoder name (starts_text encoder value) (by decide)
        parsed, if_pos rfl, later]
    · rfl
    · exact fun empty => absurd empty (List.cons_ne_nil next more)
  | _, 0, _, _, _, _, enough, _ => absurd enough (by omega)

end

/-! ## Documents -/

theorem nul_notMem_text (v : Value) : (0 : UInt8) ∉ v.text encoder :=
  fun zero => absurd (Json.Value.printable_text encoder v 0 zero) (by decide)

/-- The text of a value as a C string. -/
def document (v : Value) : CStr := ⟨v.text encoder, nul_notMem_text encoder v⟩

/-- A byte order mark is not ASCII. -/
theorem skipUtf8Bom_cons {b : UInt8} (ascii : b < 128) (rest : Bytes) :
    skipUtf8Bom (b :: rest) = b :: rest := by
  have noMark : (b :: rest).take 3 ≠ [0xEF, 0xBB, 0xBF] := by
    intro mark
    obtain rfl : b = 0xEF := (List.cons.inj mark).1
    exact absurd ascii (by decide)
  rw [skipUtf8Bom, if_neg fun both => noMark both.2]

theorem skipUtf8Bom_text (v : Value) : skipUtf8Bom (content (document encoder v)) =
    content (document encoder v) := by
  obtain ⟨b, more, begins, -, -, -, ascii⟩ := starts_text encoder v
  have whole : content (document encoder v) = b :: (more ++ [0]) := congrArg (· ++ [0]) begins
  rw [whole, skipUtf8Bom_cons ascii]

/-- **`cJSON_Parse` on the text of a value** returns the item of the value. -/
theorem parse_document {v : Value} (fits : Fits v) (shallow : v.depth ≤ nestingLimit) :
    parse (document encoder v) = some (itemOf v) := by
  have ends : Delimits [(0 : UInt8)] := by simp [Delimits]; decide
  have read : parseValue (2 * (content (document encoder v)).length) 0
      (v.text encoder ++ [0]) = some (itemOf v, [0]) := by
    refine parseValue_text encoder v fits ?_ (by omega) ends
    rw [content, List.length_append]
    exact Nat.mul_le_mul_left 2 (Nat.le_add_right _ _)
  have skipped : skipWhitespace (content (document encoder v)) = v.text encoder ++ [0] :=
    skipWhitespace_of_starts (starts_text encoder v) [0]
  rw [parse, skipUtf8Bom_text, skipped, read]
  rfl

end Text

end CapacityAgent.CJson
