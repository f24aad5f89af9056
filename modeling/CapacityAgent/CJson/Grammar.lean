/-
# The texts cJSON reads

Whatever `parse_value` reads is a text of the JSON grammar but for its lexis: any byte up
to a space is blank, a string is whatever ends at a quote that is not escaped, and a number
is whatever `strtod` takes of the bytes of numbers.
-/

import CapacityAgent.CJson.Cut
import CapacityAgent.Library.JsonLexis

namespace CapacityAgent.CJson

open Json (Bracket Closed IsWord Lexis Text quoted)

/-! ## Gaps and strings -/

/-- What `buffer_skip_whitespace` passes over. -/
theorem exists_gap (s : Bytes) : ∃ gap, s = gap ++ skipWhitespace s ∧ Lexis.loose.Gap gap := by
  cases visible : s.dropWhile (· ≤ 32) with
  | nil =>
    have blank : ∀ b ∈ s, b ≤ 32 := by simpa using List.dropWhile_eq_nil_iff.mp visible
    -- at the end of the buffer the last byte is left
    refine ⟨s.dropLast, ?_, fun b member => blank b (List.mem_of_mem_dropLast member)⟩
    rw [skipWhitespace, visible]
    cases last : s.getLast? with
    | none =>
      rw [List.getLast?_eq_none_iff.mp last]
      rfl
    | some b => exact (List.dropLast_append_getLast? b last).symm
  | cons next more =>
    have blank : ∀ b ∈ s.takeWhile (· ≤ 32), b ≤ 32 := fun b member => by
      simpa using List.mem_takeWhile_imp member
    refine ⟨s.takeWhile (· ≤ 32), ?_, blank⟩
    rw [skipWhitespace, visible]
    calc s = s.takeWhile (· ≤ 32) ++ s.dropWhile (· ≤ 32) := List.takeWhile_append_dropWhile.symm
      _ = s.takeWhile (· ≤ 32) ++ next :: more := by rw [visible]

theorem stringBody_sound {s body left : Bytes} (read : stringBody s = some (body, left)) :
    Closed body ∧ s = body ++ byte '"' :: left := by
  induction s using stringBody.induct generalizing body left with
  | case1 =>
    have none : stringBody [] = none := rfl
    exact absurd (none.symm.trans read) (by simp)
  | case2 inner =>
    obtain ⟨rfl, rfl⟩ := Prod.mk.inj (Option.some.inj ((stringBody_quote _).symm.trans read))
    exact ⟨.nil, rfl⟩
  | case3 notQuote =>
    have none : stringBody [byte '\\'] = none := rfl
    exact absurd (none.symm.trans read) (by simp)
  | case4 escaped inner notQuote ih =>
    rw [stringBody_escaped] at read
    obtain ⟨⟨body', left'⟩, found, same⟩ := Option.map_eq_some_iff.mp read
    obtain ⟨rfl, rfl⟩ := Prod.mk.inj same
    obtain ⟨closed, rfl⟩ := ih found
    exact ⟨.escaped escaped closed, rfl⟩
  | case5 b inner notQuote notBackslash ih =>
    rw [stringBody_plainByte notQuote notBackslash] at read
    obtain ⟨⟨body', left'⟩, found, same⟩ := Option.map_eq_some_iff.mp read
    obtain ⟨rfl, rfl⟩ := Prod.mk.inj same
    obtain ⟨closed, rfl⟩ := ih found
    exact ⟨.plain notQuote notBackslash closed, rfl⟩

theorem parseString_sound {s left : Bytes} {value : CStr}
    (read : parseString s = some (value, left)) :
    ∃ body, Closed body ∧ s = quoted body ++ left := by
  obtain ⟨inner, body, output, rfl, found, -, -⟩ := parseString_eq_some.mp read
  obtain ⟨closed, rfl⟩ := stringBody_sound found
  exact ⟨body, closed, by simp [quoted]⟩

/-! ## Numbers -/

theorem length_takeSign_le (s : Bytes) : (takeSign s).2.length ≤ s.length := by
  unfold takeSign
  split
  · split_ifs <;> simp
  · exact le_rfl

theorem length_takeFraction_le (s : Bytes) :
    (takeFraction s).1.length + (takeFraction s).2.length ≤ s.length := by
  unfold takeFraction
  split
  · next b rest =>
    have parts := congrArg List.length (List.takeWhile_append_dropWhile (p := isDigit) (l := rest))
    rw [List.length_append] at parts
    split_ifs
    · simp only [List.length_cons]
      omega
    · simp
  · exact le_rfl

theorem length_takeExponent_le (s : Bytes) : (takeExponent s).2.length ≤ s.length := by
  unfold takeExponent
  split
  · next b rest =>
    have signed := length_takeSign_le rest
    have digits := (List.dropWhile_sublist isDigit (l := (takeSign rest).2)).length_le
    dsimp only
    rw [List.length_cons]
    split_ifs
    all_goals dsimp only
    · omega
    · omega
    · rw [List.length_cons]
  · exact Nat.le_refl _

/-- A number that is found takes at least one byte. -/
theorem length_lt_of_strtod {s left : Bytes} {number : Double}
    (found : strtod s = some (number, left)) : left.length < s.length := by
  have signed := length_takeSign_le s
  have digits := congrArg List.length
    (List.takeWhile_append_dropWhile (p := isDigit) (l := (takeSign s).2))
  rw [List.length_append] at digits
  have point := length_takeFraction_le ((takeSign s).2.dropWhile isDigit)
  have power := length_takeExponent_le (takeFraction ((takeSign s).2.dropWhile isDigit)).2
  simp only [strtod] at found
  split_ifs at found with none
  obtain ⟨-, rfl⟩ := Prod.mk.inj (Option.some.inj found)
  -- there are digits before the point or behind it
  rcases not_and_or.mp none with whole | fraction
  · have positive := List.length_pos_iff.mpr whole
    omega
  · have positive := List.length_pos_iff.mpr fraction
    omega

theorem isMark_of_isNumberByte {b : UInt8} (number : isNumberByte b = true) :
    Json.isMark b = false := by
  have visible : ¬ b ≤ 32 := by
    simp only [isNumberByte, isDigit, Bool.or_eq_true, Bool.and_eq_true, decide_eq_true_eq,
      beq_iff_eq] at number
    rcases number with ((((⟨low, -⟩ | rfl) | rfl) | rfl) | rfl) | rfl
    · exact fun blank => absurd (UInt8.le_trans low blank) (by decide)
    all_goals decide
  have other : b ∉ Json.marks := by
    have marks : ∀ c ∈ Json.marks, isNumberByte c = false := by decide +kernel
    exact fun mark => absurd number (by simp [marks b mark])
  simp [Json.isMark, visible, other]

theorem isNumberByte_of_mem_take_copied {s : Bytes} {n : ℕ} (few : n ≤ (copied s).length)
    {b : UInt8} (member : b ∈ s.take n) : isNumberByte b = true := by
  obtain ⟨rest, same⟩ : copied s <+: s :=
    (List.takeWhile_prefix isNumberByte).trans (List.take_prefix 63 s)
  have inside : s.take n = (copied s).take n := by
    rw [← List.take_append_of_le_length few, same]
  exact List.mem_takeWhile_imp (List.mem_of_mem_take (inside ▸ member))

theorem parseNumber_sound {s left : Bytes} {number : Double}
    (read : parseNumber s = some (number, left)) : ∃ used, s = used ++ left ∧ IsWord used := by
  rw [parseNumber_eq] at read
  obtain ⟨found, converted, same⟩ := Option.map_eq_some_iff.mp read
  obtain ⟨-, rfl⟩ := Prod.mk.inj same
  -- what is used is a part of what was copied
  have some_ := length_lt_of_strtod converted
  have short := length_copied_le s
  refine ⟨s.take ((copied s).length - found.2.length), (List.take_append_drop _ s).symm, ?_, ?_⟩
  · refine List.ne_nil_of_length_pos ?_
    rw [List.length_take]
    omega
  · intro b member
    exact isMark_of_isNumberByte (isNumberByte_of_mem_take_copied (Nat.sub_le _ _) member)

/-! ## The loops -/

/-- Every value that is read is the text of one. -/
def ValuesSound (read : Bytes → Option (Item × Bytes)) : Prop :=
  ∀ s item left, read s = some (item, left) →
    ∃ used, s = used ++ left ∧ Text .loose .value used

/-- Whatever a loop reads up to the closing bracket is the text of entries. -/
def EntriesSound {α : Type} (bracket : Bracket) (loop : Bytes → Option (α × Bytes)) : Prop :=
  ∀ s entries left, loop s = some (entries, left) →
    ∃ used, s = used ++ bracket.closing :: left ∧ Text .loose (.entries bracket) used

section Loops

variable {fuel depth : ℕ}

/-- A value with the white space around it. -/
theorem element_sound {read : Bytes → Option (Item × Bytes)} (values : ValuesSound read)
    {s after more : Bytes} {item : Item} {next : UInt8}
    (found : read (skipWhitespace s) = some (item, after))
    (skipped : skipWhitespace after = next :: more) :
    ∃ element, s = element ++ next :: more ∧ Text .loose (.entry .square) element := by
  obtain ⟨before, splits, blank⟩ := exists_gap s
  obtain ⟨used, starts, text⟩ := values _ _ _ found
  obtain ⟨behind, splits', blank'⟩ := exists_gap after
  refine ⟨before ++ (used ++ behind), ?_, .element blank text blank'⟩
  rw [splits, starts, splits', skipped]
  simp

/-- An entry, and either a comma and the entries behind it or the closing bracket. -/
theorem entries_sound {bracket : Bracket} {entry more left : Bytes} {next : UInt8}
    (text : Text .loose (.entry bracket) entry)
    (goesOn : (next = byte ',' ∧ ∃ later, more = later ++ bracket.closing :: left ∧
        Text .loose (.entries bracket) later) ∨ next = bracket.closing ∧ left = more) :
    ∃ used, entry ++ next :: more = used ++ bracket.closing :: left ∧
      Text .loose (.entries bracket) used := by
  rcases goesOn with ⟨rfl, later, rfl, entries⟩ | ⟨rfl, rfl⟩
  · exact ⟨entry ++ byte ',' :: later, by simp, .more text entries⟩
  · exact ⟨entry, rfl, .last text⟩

theorem parseElements_sound (values : ValuesSound (parseValue fuel depth))
    (loop : EntriesSound .square (parseElements fuel depth)) :
    EntriesSound .square (parseElements (fuel + 1) depth) := by
  intro s items left read
  obtain ⟨item, after, next, more, value, skipped, goesOn⟩ := parseElements_eq_some.mp read
  obtain ⟨element, rfl, text⟩ := element_sound values value skipped
  refine entries_sound text (goesOn.imp ?_ ?_)
  · rintro ⟨comma, later, parsed, -⟩
    exact ⟨comma, loop more later left parsed⟩
  · exact fun ⟨bracket, _, same⟩ => ⟨bracket, same⟩

theorem parseMembers_sound (values : ValuesSound (parseValue fuel depth))
    (loop : EntriesSound .curly (parseMembers fuel depth)) :
    EntriesSound .curly (parseMembers (fuel + 1) depth) := by
  intro s members left read
  obtain ⟨name, afterName, value, item, after, next, more, named, colon, parsed, skipped, goesOn⟩ :=
    parseMembers_eq_some.mp read
  obtain ⟨before, splits, blank⟩ := exists_gap s
  obtain ⟨body, closed, starts⟩ := parseString_sound named
  obtain ⟨behind, splits', blank'⟩ := exists_gap afterName
  obtain ⟨element, rfl, text⟩ := element_sound values parsed skipped
  have entry : Text .loose (.entry .curly)
      (before ++ (quoted body ++ (behind ++ byte ':' :: element))) :=
    .member blank closed blank' text
  have whole : s = before ++ (quoted body ++ (behind ++ byte ':' :: element)) ++ next :: more := by
    rw [splits, starts, splits', colon]
    simp
  rw [whole]
  refine entries_sound entry (goesOn.imp ?_ ?_)
  · rintro ⟨comma, later, read', -⟩
    exact ⟨comma, loop more later left read'⟩
  · exact fun ⟨brace, _, same⟩ => ⟨brace, same⟩

theorem afterBracket_sound {α : Type} {bracket : Bracket}
    {loop : Bytes → Option (List α × Bytes)} (sound : EntriesSound bracket loop)
    {item : List α → Item} {inner left : Bytes} {value : Item}
    (read : afterBracket bracket.closing loop item inner = some (value, left)) :
    ∃ used, bracket.opening :: inner = used ++ left ∧ Text .loose .value used := by
  obtain ⟨gap, splits, blank⟩ := exists_gap inner
  unfold afterBracket at read
  cases skipped : skipWhitespace inner with
  | nil => simp [skipped] at read
  | cons next more =>
    rw [skipped] at read splits
    dsimp only at read
    split_ifs at read with closed
    · -- nothing but white space between the brackets
      obtain ⟨-, rfl⟩ := Prod.mk.inj (Option.some.inj read)
      refine ⟨bracket.opening :: (gap ++ [bracket.closing]), ?_, .empty bracket blank⟩
      rw [splits, closed]
      simp
    · obtain ⟨⟨entries, left'⟩, found, same⟩ := Option.map_eq_some_iff.mp read
      obtain ⟨-, rfl⟩ := Prod.mk.inj same
      obtain ⟨used, starts, text⟩ := sound _ _ _ found
      refine ⟨bracket.opening :: (gap ++ used ++ [bracket.closing]), ?_,
        .filled (text.entries_blanks blank)⟩
      rw [splits, starts]
      simp

end Loops

/-! ## Values -/

/-- What `parse_value` can have done with the bytes. -/
inductive ValueRead (fuel depth : ℕ) : Bytes → Item → Bytes → Prop
  | literal {word left : Bytes} {item : Item}
      (listed : word ∈ [lit "null", lit "true", lit "false"])
      (other : ∀ children, item ≠ .object children) : ValueRead fuel depth (word ++ left) item left
  | string {s left : Bytes} {value : CStr} (read : parseString s = some (value, left)) :
      ValueRead fuel depth s (.string value) left
  | number {s left : Bytes} {value : Double} (read : parseNumber s = some (value, left)) :
      ValueRead fuel depth s (.number value) left
  | array {inner left : Bytes} {item : Item}
      (read : afterBracket (byte ']') (parseElements fuel (depth + 1)) .array inner =
        some (item, left)) : ValueRead fuel depth (byte '[' :: inner) item left
  | object {inner left : Bytes} {item : Item}
      (read : afterBracket (byte '}') (parseMembers fuel (depth + 1)) .object inner =
        some (item, left)) : ValueRead fuel depth (byte '{' :: inner) item left

theorem eq_append_drop_of_take {s word : Bytes} {n : ℕ} (begins : s.take n = word) :
    s = word ++ s.drop n := by
  rw [← begins, List.take_append_drop]

theorem valueRead_of_take {fuel depth n : ℕ} {s word : Bytes} {item : Item}
    (begins : s.take n = word) (listed : word ∈ [lit "null", lit "true", lit "false"])
    (other : ∀ children, item ≠ .object children) : ValueRead fuel depth s item (s.drop n) := by
  have read : ValueRead fuel depth (word ++ s.drop n) item (s.drop n) := .literal listed other
  rwa [← eq_append_drop_of_take begins] at read

theorem valueRead_of_parseValue {fuel depth : ℕ} {s left : Bytes} {item : Item}
    (read : parseValue (fuel + 1) depth s = some (item, left)) :
    ValueRead fuel depth s item left := by
  cases s with
  | nil =>
    have none : parseValue (fuel + 1) depth [] = none := rfl
    exact absurd (none.symm.trans read) (by simp)
  | cons first inner =>
    rw [parseValue] at read
    by_cases null : (first :: inner).take 4 = lit "null"
    · rw [if_pos null] at read
      obtain ⟨rfl, rfl⟩ := Prod.mk.inj (Option.some.inj read)
      exact valueRead_of_take null (by decide) (by simp)
    by_cases false_ : (first :: inner).take 5 = lit "false"
    · rw [if_neg null, if_pos false_] at read
      obtain ⟨rfl, rfl⟩ := Prod.mk.inj (Option.some.inj read)
      exact valueRead_of_take false_ (by decide) (by simp)
    by_cases true_ : (first :: inner).take 4 = lit "true"
    · rw [if_neg null, if_neg false_, if_pos true_] at read
      obtain ⟨rfl, rfl⟩ := Prod.mk.inj (Option.some.inj read)
      exact valueRead_of_take true_ (by decide) (by simp)
    -- the first byte decides between the other kinds
    rw [if_neg null, if_neg false_, if_neg true_] at read
    by_cases quote : first = byte '"'
    · rw [if_pos quote] at read
      obtain ⟨⟨string, left'⟩, found, same⟩ := Option.map_eq_some_iff.mp read
      obtain ⟨rfl, rfl⟩ := Prod.mk.inj same
      exact .string found
    by_cases number : first = byte '-' ∨ isDigit first = true
    · rw [if_neg quote, if_pos number] at read
      obtain ⟨⟨decimal, left'⟩, found, same⟩ := Option.map_eq_some_iff.mp read
      obtain ⟨rfl, rfl⟩ := Prod.mk.inj same
      exact .number found
    rw [if_neg quote, if_neg number] at read
    by_cases bracket : first = byte '['
    · rw [if_pos bracket] at read
      by_cases deep : nestingLimit ≤ depth
      · rw [if_pos deep] at read
        exact absurd read (by simp)
      · rw [if_neg deep] at read
        exact bracket ▸ .array read
    by_cases brace : first = byte '{'
    · rw [if_neg bracket, if_pos brace] at read
      by_cases deep : nestingLimit ≤ depth
      · rw [if_pos deep] at read
        exact absurd read (by simp)
      · rw [if_neg deep] at read
        exact brace ▸ .object read
    · rw [if_neg bracket, if_neg brace] at read
      exact absurd read (by simp)

theorem parseValue_sound {fuel depth : ℕ}
    (elements : EntriesSound .square (parseElements fuel (depth + 1)))
    (members : EntriesSound .curly (parseMembers fuel (depth + 1))) :
    ValuesSound (parseValue (fuel + 1) depth) := by
  intro s item left read
  cases valueRead_of_parseValue read with
  | literal listed other => exact ⟨_, rfl, .word (Json.IsValueWord.isWord (.inl listed))⟩
  | string read =>
    obtain ⟨body, closed, splits⟩ := parseString_sound read
    exact ⟨quoted body, splits, .string closed⟩
  | number read =>
    obtain ⟨used, splits, word⟩ := parseNumber_sound read
    exact ⟨used, splits, .word word⟩
  | array read => exact afterBracket_sound elements read
  | object read => exact afterBracket_sound members read

/-- The three functions at once, by the room they have. -/
theorem parse_sound (fuel : ℕ) : ∀ depth,
    ValuesSound (parseValue fuel depth) ∧ EntriesSound .square (parseElements fuel depth) ∧
      EntriesSound .curly (parseMembers fuel depth) := by
  induction fuel with
  | zero =>
    intro depth
    refine ⟨fun s item left read => ?_, fun s items left read => ?_, fun s members left read => ?_⟩
    · exact absurd read (by simp [parseValue])
    · exact absurd read (by simp [parseElements])
    · exact absurd read (by simp [parseMembers])
  | succ fuel ih =>
    intro depth
    -- the loops go on at the same depth, a value opens the next
    obtain ⟨values, elements, members⟩ := ih depth
    obtain ⟨-, inner, innerMembers⟩ := ih (depth + 1)
    exact ⟨parseValue_sound inner innerMembers, parseElements_sound values elements,
      parseMembers_sound values members⟩

/-! ## Documents -/

/-- `cJSON_Parse` passes over `before`, reads the text as the value and leaves `after` and the
terminator. -/
structure Reads (value : CStr) (root : Item) (before text after : Bytes) : Prop where
  splits : value.bytes = before ++ (text ++ after)
  starts : skipWhitespace (skipUtf8Bom (content value)) = text ++ (after ++ [0])
  parsed : parseValue (2 * (content value).length) 0 (text ++ (after ++ [0])) =
    some (root, after ++ [0])

/-- What is behind a byte order mark, if there is one, with the terminator. -/
theorem exists_skipUtf8Bom (value : CStr) :
    ∃ mark rest, value.bytes = mark ++ rest ∧ skipUtf8Bom (content value) = rest ++ [0] := by
  unfold skipUtf8Bom content
  split_ifs with bom
  · have three : 3 ≤ value.bytes.length := by
      have long := bom.1
      rw [List.length_append, List.length_singleton] at long
      omega
    exact ⟨value.bytes.take 3, value.bytes.drop 3, (List.take_append_drop 3 _).symm,
      List.drop_append_of_le_length three⟩
  · exact ⟨[], value.bytes, rfl, rfl⟩

theorem parse_eq_some_iff {value : CStr} {root : Item} :
    parse value = some root ↔ ∃ before text after, Reads value root before text after := by
  constructor
  · intro read
    obtain ⟨⟨root', rest⟩, found, rfl⟩ := Option.map_eq_some_iff.mp read
    obtain ⟨mark, bytes, splits, unmarked⟩ := exists_skipUtf8Bom value
    obtain ⟨gap, skipped, -⟩ := exists_gap (bytes ++ [0])
    have found' := found
    rw [unmarked] at found'
    -- no value is made of the terminator alone, so it is still there behind the value
    obtain ⟨inner, start, -⟩ := skipWhitespace_cut_of_some (parseValue_nul _ 0) found'
    rw [start] at found' skipped
    obtain ⟨after, rfl, -⟩ := (parse_cut _ _ le_rfl 0).1 inner root' rest found'
    obtain ⟨text, whole, -⟩ := (parse_sound _ 0).1 _ _ _ found'
    have visible : inner = text ++ after :=
      List.append_cancel_right (whole.trans (List.append_assoc _ _ _).symm)
    have inside : bytes = gap ++ inner :=
      List.append_cancel_right (skipped.trans (List.append_assoc _ _ _).symm)
    refine ⟨mark ++ gap, text, after, ?_, ?_, ?_⟩
    · rw [splits, inside, visible, List.append_assoc]
    · rw [unmarked, start, whole]
    · rw [← whole]
      exact found'
  · rintro ⟨before, text, after, reads⟩
    rw [parse, reads.starts, reads.parsed]
    rfl

theorem exists_of_afterBracket {α : Type} {close : UInt8}
    {loop : Bytes → Option (List α × Bytes)} {item : List α → Item} {inner left : Bytes}
    {value : Item} (read : afterBracket close loop item inner = some (value, left)) :
    ∃ entries, value = item entries := by
  unfold afterBracket at read
  cases skipped : skipWhitespace inner with
  | nil => simp [skipped] at read
  | cons next more =>
    rw [skipped] at read
    dsimp only at read
    split_ifs at read with closed
    · exact ⟨[], (Prod.mk.inj (Option.some.inj read)).1.symm⟩
    · obtain ⟨parsed, -, same⟩ := Option.map_eq_some_iff.mp read
      exact ⟨parsed.1, (Prod.mk.inj same).1.symm⟩

/-- Only behind a brace is an object made. -/
theorem head?_of_parseValue {fuel depth : ℕ} {s left : Bytes} {children : List (CStr × Item)}
    (read : parseValue fuel depth s = some (.object children, left)) :
    s.head? = some (byte '{') := by
  cases fuel with
  | zero => exact absurd read (by simp [parseValue])
  | succ fuel =>
    cases valueRead_of_parseValue read with
    | literal listed other => exact absurd rfl (other children)
    | array read =>
      obtain ⟨entries, same⟩ := exists_of_afterBracket read
      exact Item.noConfusion same
    | object read => rfl

/-- What is read as an object is the text of one. -/
theorem Reads.isObject {value : CStr} {children : List (CStr × Item)} {before text after : Bytes}
    (reads : Reads value (.object children) before text after) : Json.IsObject .loose text := by
  obtain ⟨used, same, text'⟩ := (parse_sound _ 0).1 _ _ _ reads.parsed
  obtain rfl := List.append_cancel_right same
  refine ⟨text', ?_⟩
  rw [← head?_of_parseValue reads.parsed]
  exact (List.head?_append_of_ne_nil _ text'.value_ne_nil).symm

theorem skipWhitespace_gap {gap : Bytes} (blank : ∀ b ∈ gap, b ≤ 32) {next : UInt8}
    (visible : 32 < next) (rest : Bytes) :
    skipWhitespace (gap ++ next :: rest) = next :: rest := by
  have stops : ¬ next ≤ 32 := UInt8.not_le.mpr visible
  have skipped : (gap ++ next :: rest).dropWhile (· ≤ 32) = next :: rest := by
    rw [List.dropWhile_append_of_pos (by simpa using blank)]
    simp [stops]
  rw [skipWhitespace, skipped]

/-- JSON white space has no byte order mark in it. -/
theorem skipUtf8Bom_gap {gap : Bytes} (blank : Lexis.json.Gap gap) {next : UInt8}
    (ascii : next < 128) (rest : Bytes) :
    skipUtf8Bom (gap ++ next :: rest) = gap ++ next :: rest := by
  cases gap with
  | nil => exact skipUtf8Bom_cons ascii rest
  | cons b later =>
    have small : b ≤ 32 := Lexis.json.blank_le (blank b List.mem_cons_self)
    exact skipUtf8Bom_cons (UInt8.lt_of_le_of_lt small (by decide)) _

/-- If the bytes are an object and white space, that object is what is read. -/
theorem Reads.unique {value : CStr} {children : List (CStr × Item)}
    {before text after before' text' after' : Bytes}
    (reads : Reads value (.object children) before text after) (blank : Lexis.json.Gap before')
    (object : Json.IsObject .json text') (splits : value.bytes = before' ++ (text' ++ after')) :
    before = before' ∧ text = text' ∧ after = after' := by
  obtain ⟨inner, starts, -⟩ := object.exists_inner
  have start : skipWhitespace (skipUtf8Bom (content value)) = text' ++ (after' ++ [0]) := by
    have bytes : content value =
        before' ++ byte '{' :: (inner ++ [byte '}'] ++ (after' ++ [0])) := by
      rw [content, splits, starts]
      simp
    rw [bytes, skipUtf8Bom_gap blank (by decide), skipWhitespace_gap blank.le (by decide), starts]
    rfl
  -- both objects begin at the same byte
  obtain ⟨rfl, rests⟩ := reads.isObject.unique object (reads.starts.symm.trans start)
  obtain rfl := List.append_cancel_right rests
  exact ⟨List.append_cancel_right (reads.splits.symm.trans splits), rfl, rfl⟩

end CapacityAgent.CJson
