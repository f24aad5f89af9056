/-
# cJSON on a text that is cut off

Where the parser accepts before the terminator, it accepts the same bytes before
anything else and leaves what follows them. Only a number can go on with what follows,
and behind a number that reaches the terminator no array and no object is closed. So no
proper prefix of the text of an object is accepted.
-/

import CapacityAgent.CJson.RoundTrip

namespace CapacityAgent.CJson

open Json (Encoder Value)

/-! ## Readings that stand -/

section Readings

variable {α β : Type*}

/-- What the first function reads of the bytes before the terminator, the second reads
of them before anything. -/
def ExtendsAt (first second : Bytes → Option (α × Bytes)) (s : Bytes) : Prop :=
  ∀ a rest, first (s ++ [0]) = some (a, rest) →
    ∃ left, rest = left ++ [0] ∧ ∀ more, second (s ++ more) = some (a, left ++ more)

/-- Nothing but bytes of numbers. -/
def Numeric (bytes : Bytes) : Prop := ∀ b ∈ bytes, isNumberByte b = true

/-- The same but for a number that reaches the terminator. -/
def ExtendsOrNumber (first second : Bytes → Option (α × Bytes)) (s : Bytes) : Prop :=
  ∀ a rest, first (s ++ [0]) = some (a, rest) →
    ∃ left, rest = left ++ [0] ∧
      ((Numeric s ∧ Numeric left) ∨ ∀ more, second (s ++ more) = some (a, left ++ more))

theorem ExtendsAt.map {first second : Bytes → Option (α × Bytes)} {s : Bytes}
    (extends_ : ExtendsAt first second s) (f : α → β) :
    ExtendsAt (fun t => (first t).map fun found => (f found.1, found.2))
      (fun t => (second t).map fun found => (f found.1, found.2)) s := by
  intro b rest read
  obtain ⟨⟨a, rest'⟩, found, same⟩ := Option.map_eq_some_iff.mp read
  obtain ⟨rfl, rfl⟩ := Prod.mk.inj same
  obtain ⟨left, ends, stands⟩ := extends_ a _ found
  refine ⟨left, ends, fun more => ?_⟩
  simp only [stands more]
  rfl

end Readings

/-! ## White space -/

/-- White space is skipped up to the terminator, or up to a byte in the same way whatever
follows. -/
theorem skipWhitespace_terminated (s : Bytes) :
    skipWhitespace (s ++ [0]) = [0] ∨
      ∃ b ∈ s, ∃ left, ∀ more, skipWhitespace (s ++ more) = b :: (left ++ more) := by
  have skipped : ∀ more, (s ++ more).dropWhile (· ≤ 32) =
      if (s.dropWhile (· ≤ 32)).isEmpty then more.dropWhile (· ≤ 32)
      else s.dropWhile (· ≤ 32) ++ more := fun more => List.dropWhile_append
  cases visible : s.dropWhile (· ≤ 32) with
  | nil =>
    left
    simp [skipWhitespace, skipped, visible]
  | cons b left =>
    have member : b ∈ s.dropWhile (· ≤ 32) := visible ▸ List.mem_cons_self
    refine .inr ⟨b, (List.dropWhile_sublist _).mem member, left, fun more => ?_⟩
    rw [skipWhitespace, skipped, visible]
    rfl

theorem skipWhitespace_cut {s tail : Bytes} {next : UInt8}
    (found : skipWhitespace (s ++ [0]) = next :: tail) (visible : next ≠ 0) :
    next ∈ s ∧ ∃ left, tail = left ++ [0] ∧
      ∀ more, skipWhitespace (s ++ more) = next :: (left ++ more) := by
  rcases skipWhitespace_terminated s with blank | ⟨b, member, left, all⟩
  · rw [blank] at found
    exact absurd (List.cons.inj found).1.symm visible
  · obtain ⟨rfl, rfl⟩ := List.cons.inj ((all [0]).symm.trans found)
    exact ⟨member, left, rfl, all⟩

/-- The same in front of what is not read of the terminator alone. -/
theorem skipWhitespace_cut_of_some {α : Type*} {read : Bytes → Option (α × Bytes)}
    (nul : read [0] = none) {s rest : Bytes} {a : α}
    (found : read (skipWhitespace (s ++ [0])) = some (a, rest)) :
    ∃ inner, skipWhitespace (s ++ [0]) = inner ++ [0] ∧
      ∀ more, skipWhitespace (s ++ more) = inner ++ more := by
  rcases skipWhitespace_terminated s with blank | ⟨b, -, left, all⟩
  · rw [blank, nul] at found
    exact absurd found (by simp)
  · exact ⟨b :: left, all [0], all⟩

/-! ## Strings -/

theorem stringBody_quote (rest : Bytes) : stringBody (byte '"' :: rest) = some ([], rest) := by
  rw [stringBody.eq_def]
  rfl

theorem stringBody_plainByte {b : UInt8} (notQuote : b ≠ byte '"') (notBackslash : b ≠ byte '\\')
    (rest : Bytes) :
    stringBody (b :: rest) = (stringBody rest).map fun found => (b :: found.1, found.2) := by
  rw [stringBody.eq_def]
  simp only [notQuote, notBackslash, if_false]

theorem stringBody_cut (s : Bytes) : ExtendsAt stringBody stringBody s := by
  induction s using stringBody.induct with
  | case1 =>
    intro body rest read
    have none : stringBody [0] = none := rfl
    exact absurd (none.symm.trans read) (by simp)
  | case2 inner =>
    intro body rest read
    obtain ⟨rfl, rfl⟩ := Prod.mk.inj (Option.some.inj ((stringBody_quote _).symm.trans read))
    exact ⟨inner, rfl, fun more => stringBody_quote (inner ++ more)⟩
  | case3 notQuote =>
    -- the escaped byte is the terminator
    intro body rest read
    have none : stringBody [byte '\\', 0] = none := rfl
    exact absurd (none.symm.trans read) (by simp)
  | case4 escaped inner notQuote ih =>
    intro body rest read
    obtain ⟨left, ends, stands⟩ := ih.map (fun body => byte '\\' :: escaped :: body) body rest read
    exact ⟨left, ends, stands⟩
  | case5 b inner notQuote notBackslash ih =>
    intro body rest read
    rw [List.cons_append, stringBody_plainByte notQuote notBackslash] at read
    obtain ⟨left, ends, stands⟩ := ih.map (fun body => b :: body) body rest read
    refine ⟨left, ends, fun more => ?_⟩
    rw [List.cons_append, stringBody_plainByte notQuote notBackslash]
    exact stands more

theorem parseString_cut (s : Bytes) : ExtendsAt parseString parseString s := by
  intro value rest read
  obtain ⟨inner, body, output, begins, closed, decoded, same⟩ := parseString_eq_some.mp read
  match s with
  | [] =>
    -- the terminator is no quote
    exact absurd (List.cons.inj begins).1 (by decide)
  | b :: behind =>
    obtain ⟨rfl, rfl⟩ := List.cons.inj begins
    obtain ⟨left, ends, stands⟩ := stringBody_cut behind body rest closed
    refine ⟨left, ends, fun more => ?_⟩
    exact parseString_eq_some.mpr ⟨_, body, output, rfl, stands more, decoded, same⟩

/-! ## Numbers -/

/-- The bytes copied for `strtod`. -/
def copied (s : Bytes) : Bytes := (s.take 63).takeWhile isNumberByte

theorem parseNumber_eq (s : Bytes) :
    parseNumber s = (strtod (copied s)).map fun found =>
      (found.1, s.drop ((copied s).length - found.2.length)) := by
  unfold parseNumber
  cases converted : strtod (copied s) with
  | none =>
    rw [copied] at converted
    simp only [converted, Option.map_none]
  | some found =>
    rw [copied] at converted
    simp only [converted, Option.map_some, copied]

theorem length_copied_le (s : Bytes) : (copied s).length ≤ s.length :=
  ((List.takeWhile_prefix _).length_le).trans (List.length_take_le' 63 s)

/-- Copying that stops inside the bytes stops there whatever follows. -/
theorem copied_append {s : Bytes} (stops : copied s ≠ s) (more : Bytes) :
    copied (s ++ more) = copied s := by
  unfold copied at stops ⊢
  rw [List.take_append, List.takeWhile_append]
  split_ifs with whole
  · -- all that fits the buffer is copied, and the bytes do not fit it
    have all : (s.take 63).takeWhile isNumberByte = s.take 63 :=
      (List.takeWhile_prefix _).eq_of_length whole
    have long : 63 < s.length := by
      by_contra short
      rw [all, List.take_of_length_le (Nat.le_of_not_lt short)] at stops
      exact stops rfl
    have full : 63 - s.length = 0 := by omega
    rw [full, all]
    simp
  · rfl

/-- The terminator is not copied. -/
theorem copied_terminator (s : Bytes) : copied (s ++ [0]) = copied s := by
  by_cases whole : copied s = s
  · have short : s.length ≤ 63 := by
      have length := congrArg List.length whole
      have taken : (copied s).length ≤ 63 :=
        ((List.takeWhile_prefix _).length_le).trans (List.length_take_le 63 s)
      omega
    have numeric : ∀ b ∈ s, isNumberByte b = true := by
      intro b member
      rw [← whole] at member
      exact List.mem_takeWhile_imp member
    have stops : ([0].take (63 - s.length)).takeWhile isNumberByte = [] := by
      cases 63 - s.length with
      | zero => rfl
      | succ room => rfl
    rw [whole, copied, List.take_append, List.take_of_length_le short,
      List.takeWhile_append_of_pos numeric, stops, List.append_nil]
  · exact copied_append whole [0]

theorem parseNumber_cut (s : Bytes) : ExtendsOrNumber parseNumber parseNumber s := by
  intro number rest read
  rw [parseNumber_eq, copied_terminator] at read
  obtain ⟨found, converted, same⟩ := Option.map_eq_some_iff.mp read
  obtain ⟨rfl, rfl⟩ := Prod.mk.inj same
  have inside : (copied s).length - found.2.length ≤ s.length :=
    (Nat.sub_le _ _).trans (length_copied_le s)
  refine ⟨s.drop ((copied s).length - found.2.length),
    List.drop_append_of_le_length inside, ?_⟩
  by_cases whole : copied s = s
  · left
    have numeric : Numeric s := by
      intro b member
      rw [← whole] at member
      exact List.mem_takeWhile_imp member
    exact ⟨numeric, fun b member => numeric b (List.mem_of_mem_drop member)⟩
  · right
    intro more
    rw [parseNumber_eq, copied_append whole, converted, Option.map_some,
      List.drop_append_of_le_length inside]

/-! ## The loops -/

/-- When the loop of `parse_array` succeeds. -/
theorem parseElements_eq_some {fuel depth : ℕ} {bytes rest : Bytes} {items : List Item} :
    parseElements (fuel + 1) depth bytes = some (items, rest) ↔
      ∃ item after next more, parseValue fuel depth (skipWhitespace bytes) = some (item, after) ∧
        skipWhitespace after = next :: more ∧
        (next = byte ',' ∧ (∃ later, parseElements fuel depth more = some (later, rest) ∧
            items = item :: later) ∨
          next = byte ']' ∧ items = [item] ∧ rest = more) := by
  rw [parseElements]
  constructor
  · intro read
    cases value : parseValue fuel depth (skipWhitespace bytes) with
    | none => simp [value] at read
    | some parsed =>
      simp only [value] at read
      cases skipped : skipWhitespace parsed.2 with
      | nil => simp [skipped] at read
      | cons next more =>
        simp only [skipped] at read
        refine ⟨parsed.1, parsed.2, next, more, rfl, skipped, ?_⟩
        split_ifs at read with comma bracket
        · obtain ⟨later, parsedLater, same⟩ := Option.map_eq_some_iff.mp read
          obtain ⟨rfl, rfl⟩ := Prod.mk.inj same
          exact .inl ⟨comma, later.1, parsedLater, rfl⟩
        · obtain ⟨rfl, rfl⟩ := Prod.mk.inj (Option.some.inj read)
          exact .inr ⟨bracket, rfl, rfl⟩
  · rintro ⟨item, after, next, more, value, skipped, ⟨rfl, later, read, rfl⟩ | ⟨rfl, rfl, rfl⟩⟩
    · simp only [value, skipped, if_true, read, Option.map_some]
    · have notComma : byte ']' ≠ byte ',' := by decide
      simp only [value, skipped, notComma, if_true, if_false]

/-- When the loop of `parse_object` succeeds. -/
theorem parseMembers_eq_some {fuel depth : ℕ} {bytes rest : Bytes}
    {members : List (CStr × Item)} :
    parseMembers (fuel + 1) depth bytes = some (members, rest) ↔
      ∃ name afterName value item after next more,
        parseString (skipWhitespace bytes) = some (name, afterName) ∧
        skipWhitespace afterName = byte ':' :: value ∧
        parseValue fuel depth (skipWhitespace value) = some (item, after) ∧
        skipWhitespace after = next :: more ∧
        (next = byte ',' ∧ (∃ later, parseMembers fuel depth more = some (later, rest) ∧
            members = (name, item) :: later) ∨
          next = byte '}' ∧ members = [(name, item)] ∧ rest = more) := by
  rw [parseMembers]
  constructor
  · intro read
    cases named : parseString (skipWhitespace bytes) with
    | none => simp [named] at read
    | some name =>
      simp only [named] at read
      cases colon : skipWhitespace name.2 with
      | nil => simp [colon] at read
      | cons colonByte value =>
        simp only [colon] at read
        split_ifs at read with notColon
        obtain rfl := not_not.mp notColon
        cases parsed : parseValue fuel depth (skipWhitespace value) with
        | none => simp [parsed] at read
        | some item =>
          simp only [parsed] at read
          cases skipped : skipWhitespace item.2 with
          | nil => simp [skipped] at read
          | cons next more =>
            simp only [skipped] at read
            refine ⟨name.1, name.2, value, item.1, item.2, next, more, rfl, colon, parsed, skipped,
              ?_⟩
            split_ifs at read with comma brace
            · obtain ⟨later, parsedLater, same⟩ := Option.map_eq_some_iff.mp read
              obtain ⟨rfl, rfl⟩ := Prod.mk.inj same
              exact .inl ⟨comma, later.1, parsedLater, rfl⟩
            · obtain ⟨rfl, rfl⟩ := Prod.mk.inj (Option.some.inj read)
              exact .inr ⟨brace, rfl, rfl⟩
  · rintro ⟨name, afterName, value, item, after, next, more, named, colon, parsed, skipped,
      ⟨rfl, later, read, rfl⟩ | ⟨rfl, rfl, rfl⟩⟩
    · simp only [named, colon, parsed, skipped, if_true, ne_eq, not_true_eq_false, if_false, read,
        Option.map_some]
    · have notComma : byte '}' ≠ byte ',' := by decide
      simp only [named, colon, parsed, skipped, notComma, if_true, if_false, ne_eq,
        not_true_eq_false]

theorem parseValue_nul (fuel depth : ℕ) : parseValue fuel depth [0] = none := by
  cases fuel <;> rfl

theorem parseString_nul : parseString [0] = none := rfl

/-- A value with a delimiter behind it, which no number has and which is not the
terminator. -/
theorem parseValue_delimited {fuel fuel' depth : ℕ}
    (values : ∀ s, ExtendsOrNumber (parseValue fuel depth) (parseValue fuel' depth) s)
    {s after tail : Bytes} {item : Item} {next : UInt8}
    (read : parseValue fuel depth (skipWhitespace (s ++ [0])) = some (item, after))
    (skipped : skipWhitespace after = next :: tail) (visible : next ≠ 0)
    (delimits : isNumberByte next = false) :
    ∃ left behind, tail = behind ++ [0] ∧
      (∀ more, parseValue fuel' depth (skipWhitespace (s ++ more)) = some (item, left ++ more)) ∧
      ∀ more, skipWhitespace (left ++ more) = next :: (behind ++ more) := by
  obtain ⟨inner, start, starts⟩ := skipWhitespace_cut_of_some (parseValue_nul fuel depth) read
  rw [start] at read
  obtain ⟨left, rfl, stands⟩ := values inner item after read
  obtain ⟨member, behind, rfl, skips⟩ := skipWhitespace_cut skipped visible
  have stands := stands.resolve_left fun numeric =>
    absurd (numeric.2 next member) (by simp [delimits])
  exact ⟨left, behind, rfl, fun more => by rw [starts, stands], skips⟩

theorem parseElements_cut {fuel fuel' depth : ℕ}
    (values : ∀ s, ExtendsOrNumber (parseValue fuel depth) (parseValue fuel' depth) s)
    (loop : ∀ s, ExtendsAt (parseElements fuel depth) (parseElements fuel' depth) s) (s : Bytes) :
    ExtendsAt (parseElements (fuel + 1) depth) (parseElements (fuel' + 1) depth) s := by
  intro items rest read
  obtain ⟨item, after, next, more, value, skipped, goesOn⟩ := parseElements_eq_some.mp read
  have delimiter : next ≠ 0 ∧ isNumberByte next = false := by
    rcases goesOn with ⟨rfl, -⟩ | ⟨rfl, -⟩ <;> decide
  obtain ⟨left, behind, rfl, valued, delimits⟩ :=
    parseValue_delimited values value skipped delimiter.1 delimiter.2
  rcases goesOn with ⟨rfl, later, parsed, rfl⟩ | ⟨rfl, rfl, rfl⟩
  · obtain ⟨last, ends, standsLater⟩ := loop behind later rest parsed
    exact ⟨last, ends, fun more => parseElements_eq_some.mpr
      ⟨item, _, _, _, valued more, delimits more, .inl ⟨rfl, later, standsLater more, rfl⟩⟩⟩
  · exact ⟨behind, rfl, fun more => parseElements_eq_some.mpr
      ⟨item, _, _, _, valued more, delimits more, .inr ⟨rfl, rfl, rfl⟩⟩⟩

theorem parseMembers_cut {fuel fuel' depth : ℕ}
    (values : ∀ s, ExtendsOrNumber (parseValue fuel depth) (parseValue fuel' depth) s)
    (loop : ∀ s, ExtendsAt (parseMembers fuel depth) (parseMembers fuel' depth) s) (s : Bytes) :
    ExtendsAt (parseMembers (fuel + 1) depth) (parseMembers (fuel' + 1) depth) s := by
  intro members rest read
  obtain ⟨name, afterName, value, item, after, next, more, named, colon, parsed, skipped, goesOn⟩ :=
    parseMembers_eq_some.mp read
  obtain ⟨inner, start, starts⟩ := skipWhitespace_cut_of_some parseString_nul named
  rw [start] at named
  obtain ⟨leftName, rfl, standsName⟩ := parseString_cut inner name afterName named
  obtain ⟨-, value, rfl, colons⟩ := skipWhitespace_cut colon (by decide)
  have delimiter : next ≠ 0 ∧ isNumberByte next = false := by
    rcases goesOn with ⟨rfl, -⟩ | ⟨rfl, -⟩ <;> decide
  obtain ⟨left, behind, rfl, valued, delimits⟩ :=
    parseValue_delimited values parsed skipped delimiter.1 delimiter.2
  have named : ∀ more, parseString (skipWhitespace (s ++ more)) = some (name, leftName ++ more) :=
    fun more => by rw [starts, standsName]
  rcases goesOn with ⟨rfl, later, parsed, rfl⟩ | ⟨rfl, rfl, rfl⟩
  · obtain ⟨last, ends, standsLater⟩ := loop behind later rest parsed
    exact ⟨last, ends, fun more => parseMembers_eq_some.mpr
      ⟨name, _, _, item, _, _, _, named more, colons more, valued more, delimits more,
        .inl ⟨rfl, later, standsLater more, rfl⟩⟩⟩
  · exact ⟨behind, rfl, fun more => parseMembers_eq_some.mpr
      ⟨name, _, _, item, _, _, _, named more, colons more, valued more, delimits more,
        .inr ⟨rfl, rfl, rfl⟩⟩⟩

/-! ## Values -/

/-- A word the bytes begin with before the terminator. -/
theorem exists_of_take_literal (word : Bytes) (noNul : (0 : UInt8) ∉ word) {s : Bytes}
    (begins : (s ++ [0]).take word.length = word) : ∃ left, s = word ++ left := by
  have within : word <+: s ++ [0] := List.prefix_iff_eq_take.mpr begins.symm
  rcases List.prefix_concat_iff.mp within with whole | ⟨left, same⟩
  · exact absurd (whole ▸ List.mem_concat_self) noNul
  · exact ⟨left, same.symm⟩

theorem parseElements_nul (fuel depth : ℕ) : parseElements fuel depth [0] = none := by
  cases fuel with
  | zero => rfl
  | succ fuel =>
    have blank : skipWhitespace [0] = [0] := rfl
    rw [parseElements, blank, parseValue_nul]

theorem parseMembers_nul (fuel depth : ℕ) : parseMembers fuel depth [0] = none := by
  cases fuel <;> rfl

section Brackets

variable {α : Type*}

theorem afterBracket_cut {close : UInt8} (visible : close ≠ 0)
    {first second : Bytes → Option (List α × Bytes)} (nul : first [0] = none)
    (loop : ∀ s, ExtendsAt first second s) (item : List α → Item) (s : Bytes) :
    ExtendsAt (afterBracket close first item) (afterBracket close second item) s := by
  intro a rest read
  unfold afterBracket at read ⊢
  rcases skipWhitespace_terminated s with blank | ⟨next, -, left, all⟩
  · rw [blank] at read
    simp [visible.symm, nul] at read
  · simp only [all] at read ⊢
    split_ifs at read ⊢ with closed
    · obtain ⟨rfl, rfl⟩ := Prod.mk.inj (Option.some.inj read)
      exact ⟨left, rfl, fun more => rfl⟩
    · exact (loop (next :: left)).map item a rest read

end Brackets

/-- Everything a value can begin with. -/
inductive Kind : Bytes → Prop
  | null (left : Bytes) : Kind (lit "null" ++ left)
  | bool (b : Bool) (left : Bytes) : Kind (lit (if b then "true" else "false") ++ left)
  | string (inner : Bytes) : Kind (byte '"' :: inner)
  | number (first : UInt8) (inner : Bytes) (begins : first = byte '-' ∨ isDigit first = true) :
      Kind (first :: inner)
  | array (inner : Bytes) : Kind (byte '[' :: inner)
  | object (inner : Bytes) : Kind (byte '{' :: inner)

theorem kind_of_parseValue {fuel depth : ℕ} {s rest : Bytes} {item : Item}
    (read : parseValue (fuel + 1) depth (s ++ [0]) = some (item, rest)) : Kind s := by
  by_cases null : (s ++ [0]).take 4 = lit "null"
  · obtain ⟨left, rfl⟩ := exists_of_take_literal (lit "null") (by decide) null
    exact .null left
  by_cases false_ : (s ++ [0]).take 5 = lit "false"
  · obtain ⟨left, rfl⟩ := exists_of_take_literal (lit "false") (by decide) false_
    exact .bool false left
  by_cases true_ : (s ++ [0]).take 4 = lit "true"
  · obtain ⟨left, rfl⟩ := exists_of_take_literal (lit "true") (by decide) true_
    exact .bool true left
  cases s with
  | nil => exact absurd ((parseValue_nul _ _).symm.trans read) (by simp)
  | cons first inner =>
    rw [List.cons_append] at null false_ true_ read
    rw [parseValue, if_neg null, if_neg false_, if_neg true_] at read
    split_ifs at read with quote number bracket deep brace deep
    · exact quote ▸ .string inner
    · exact .number first inner number
    · exact bracket ▸ .array inner
    · exact brace ▸ .object inner

/-- `parse_value` on more of the bytes and with more room. -/
theorem parseValue_cut {fuel fuel' depth : ℕ}
    (elements : ∀ s,
      ExtendsAt (parseElements fuel (depth + 1)) (parseElements fuel' (depth + 1)) s)
    (members : ∀ s, ExtendsAt (parseMembers fuel (depth + 1)) (parseMembers fuel' (depth + 1)) s)
    (s : Bytes) :
    ExtendsOrNumber (parseValue (fuel + 1) depth) (parseValue (fuel' + 1) depth) s := by
  intro item rest read
  cases kind_of_parseValue read with
  | null left =>
    obtain ⟨rfl, rfl⟩ := Prod.mk.inj (Option.some.inj read)
    exact ⟨left, rfl, .inr fun more => rfl⟩
  | bool b left =>
    cases b with
    | true =>
      obtain ⟨rfl, rfl⟩ := Prod.mk.inj (Option.some.inj read)
      exact ⟨left, rfl, .inr fun more => rfl⟩
    | false =>
      obtain ⟨rfl, rfl⟩ := Prod.mk.inj (Option.some.inj read)
      exact ⟨left, rfl, .inr fun more => rfl⟩
  | string inner =>
    obtain ⟨left, ends, stands⟩ :=
      (parseString_cut (byte '"' :: inner)).map Item.string item rest read
    exact ⟨left, ends, .inr fun more => stands more⟩
  | number first inner begins =>
    rw [List.cons_append, parseValue_number fuel depth begins] at read
    obtain ⟨⟨number, rest'⟩, found, same⟩ := Option.map_eq_some_iff.mp read
    obtain ⟨rfl, rfl⟩ := Prod.mk.inj same
    obtain ⟨left, ends, reaches | stands⟩ := parseNumber_cut (first :: inner) number _ found
    · exact ⟨left, ends, .inl reaches⟩
    · refine ⟨left, ends, .inr fun more => ?_⟩
      rw [List.cons_append, parseValue_number fuel' depth begins]
      exact congrArg (Option.map _) (stands more)
  | array inner =>
    rw [List.cons_append, parseValue_bracket] at read
    split_ifs at read with deep
    obtain ⟨left, ends, stands⟩ := afterBracket_cut (by decide) (parseElements_nul _ _) elements
      Item.array inner item rest read
    refine ⟨left, ends, .inr fun more => ?_⟩
    rw [List.cons_append, parseValue_bracket, if_neg deep]
    exact stands more
  | object inner =>
    rw [List.cons_append, parseValue_brace] at read
    split_ifs at read with deep
    obtain ⟨left, ends, stands⟩ := afterBracket_cut (by decide) (parseMembers_nul _ _) members
      Item.object inner item rest read
    refine ⟨left, ends, .inr fun more => ?_⟩
    rw [List.cons_append, parseValue_brace, if_neg deep]
    exact stands more

/-- The three functions at once: what they read before the terminator they read before
anything, with any room that is not less. -/
theorem parse_cut (fuel : ℕ) : ∀ fuel' ≥ fuel, ∀ depth,
    (∀ s, ExtendsOrNumber (parseValue fuel depth) (parseValue fuel' depth) s) ∧
      (∀ s, ExtendsAt (parseElements fuel depth) (parseElements fuel' depth) s) ∧
      ∀ s, ExtendsAt (parseMembers fuel depth) (parseMembers fuel' depth) s := by
  induction fuel with
  | zero =>
    intro fuel' _ depth
    refine ⟨fun s item rest read => ?_, fun s items rest read => ?_, fun s members rest read => ?_⟩
    · exact absurd read (by simp [parseValue])
    · exact absurd read (by simp [parseElements])
    · exact absurd read (by simp [parseMembers])
  | succ fuel ih =>
    intro fuel' enough depth
    obtain ⟨room, rfl⟩ : ∃ room, fuel' = room + 1 :=
      Nat.exists_eq_add_one_of_ne_zero (Nat.ne_zero_of_lt enough)
    have less : fuel ≤ room := Nat.le_of_succ_le_succ enough
    obtain ⟨values, elements, members⟩ := ih room less depth
    obtain ⟨-, inner, innerMembers⟩ := ih room less (depth + 1)
    exact ⟨parseValue_cut inner innerMembers, parseElements_cut values elements,
      parseMembers_cut values members⟩

/-! ## Documents -/

/-- **No cut text is accepted.** `cJSON_Parse` rejects every proper prefix of the text of
an object. -/
theorem parse_prefix {encoder : Encoder} {members : List (List Char × Value)}
    (fits : Fits (.object members)) (shallow : (Value.object members).depth ≤ nestingLimit)
    {value : CStr} {rest : Bytes}
    (within : value.bytes ++ rest = (Value.object members).text encoder) (proper : rest ≠ []) :
    parse value = none := by
  rw [parse, Option.map_eq_none_iff]
  cases cut : value.bytes with
  | nil =>
    have empty : skipWhitespace (skipUtf8Bom (content value)) = [0] := by
      rw [content, cut]
      rfl
    rw [empty, parseValue_nul]
  | cons first inner =>
    rw [cut] at within
    obtain rfl : first = byte '{' := (List.cons.inj within).1
    have start : skipWhitespace (skipUtf8Bom (content value)) = byte '{' :: inner ++ [0] := by
      rw [content, cut, List.cons_append, skipUtf8Bom_cons (by decide),
        skipWhitespace_cons (by decide)]
    rw [start, Option.eq_none_iff_forall_ne_some]
    rintro ⟨item, after⟩ read
    -- what is read of the cut text is read of the whole text too
    let room := max (2 * (content value).length) (2 * ((Value.object members).text encoder).length)
    have whole : parseValue room 0 ((Value.object members).text encoder ++ [0]) =
        some (itemOf (.object members), [0]) :=
      parseValue_text encoder (.object members) fits (le_max_right _ _) (by omega)
        (by simp [Delimits]; decide)
    obtain ⟨left, -, number | stands⟩ :=
      (parse_cut _ room (le_max_left _ _) 0).1 _ item after read
    · exact absurd (number.1 (byte '{') List.mem_cons_self) (by decide)
    · -- so the whole text would leave bytes over
      have longer := stands (rest ++ [0])
      rw [← List.append_assoc, within, whole] at longer
      have same : ([0] : Bytes) = left ++ (rest ++ [0]) :=
        (Prod.mk.inj (Option.some.inj longer)).2
      have lengths := congrArg List.length same
      simp only [List.length_append, List.length_singleton] at lengths
      exact proper (List.eq_nil_of_length_eq_zero (by omega))

end CapacityAgent.CJson
