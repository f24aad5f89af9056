/-
# cJSON reads JSON

Every JSON text, however it is laid out and its strings are escaped, is parsed to the item
of what it says, provided its numbers fit the number buffer and it is not nested too deeply.
-/

import CapacityAgent.CJson.Grammar
import CapacityAgent.CJson.Print
import CapacityAgent.Library.JsonMeaning
import CapacityAgent.Library.JsonScalars

namespace CapacityAgent.CJson

open Json (Bracket Closed Datum Denotes Entry Lexis Means Number Part Said Token decodeBody
  decodeWord hexCode quoted shortEscape tokens)

/-! ## Strings -/

theorem hexValue_eq (b : UInt8) : hexValue b = Json.hexValue b := by
  unfold hexValue Json.hexValue
  have upper : (byte 'A' ≤ b ∧ b ≤ byte 'F') → ¬ (byte 'a' ≤ b ∧ b ≤ byte 'f') := by
    rintro ⟨-, high⟩ ⟨low, -⟩
    exact absurd (UInt8.le_trans low high) (by decide)
  have toNat_le {b c : UInt8} (le : b ≤ c) : b.toNat ≤ c.toNat := UInt8.le_iff_toNat_le.mp le
  split_ifs with digit capital small small
  · rfl
  · exact absurd small (upper capital)
  · have low := toNat_le capital.1
    exact congrArg some (by have : (byte 'A').toNat = 65 := rfl; omega)
  · have low := toNat_le small.1
    exact congrArg some (by have : (byte 'a').toNat = 97 := rfl; omega)
  · rfl

theorem hexValue_lt {b : UInt8} {value : ℕ} (hex : Json.hexValue b = some value) :
    value < 16 := by
  have toNat_le {b c : UInt8} (le : b ≤ c) : b.toNat ≤ c.toNat := UInt8.le_iff_toNat_le.mp le
  have nine : (byte '9').toNat = 57 := rfl
  have f : (byte 'f').toNat = 102 := rfl
  have F : (byte 'F').toNat = 70 := rfl
  unfold Json.hexValue at hex
  split_ifs at hex with digit small capital
  · have high := toNat_le digit.2
    have same := Option.some.inj hex
    omega
  · have high := toNat_le small.2
    have same := Option.some.inj hex
    omega
  · have high := toNat_le capital.2
    have same := Option.some.inj hex
    omega

/-- The code unit of four hexadecimal digits. -/
theorem parseHex4_of_hexCode {d₁ d₂ d₃ d₄ : UInt8} {code : ℕ}
    (hex : hexCode [d₁, d₂, d₃, d₄] = some code) (rest : Bytes) :
    parseHex4 (d₁ :: d₂ :: d₃ :: d₄ :: rest) = code ∧ code < 0x10000 := by
  obtain ⟨values, digits, rfl⟩ := Option.map_eq_some_iff.mp hex
  simp only [List.mapM_cons, List.mapM_nil, Option.bind_eq_bind, Option.pure_def,
    Option.bind_eq_some_iff, Option.some.injEq] at digits
  obtain ⟨v₁, first, _, ⟨v₂, second, _, ⟨v₃, third, _, ⟨v₄, fourth, _, rfl, rfl⟩, rfl⟩, rfl⟩,
    rfl⟩ := digits
  have small := And.intro (hexValue_lt first) (And.intro (hexValue_lt second)
    (And.intro (hexValue_lt third) (hexValue_lt fourth)))
  simp only [parseHex4, List.take_succ_cons, List.take_zero, List.mapM_cons, List.mapM_nil,
    hexValue_eq, first, second, third, fourth, Option.pure_def, Option.bind_eq_bind,
    Option.bind_some, List.foldl_cons, List.foldl_nil, Nat.shiftLeft_eq]
  omega

/-- A code point that is no surrogate is encoded as its character. -/
theorem encodeAsUtf8_ofNat {code : ℕ} (scalar : code.isValidChar) :
    encodeAsUtf8 code = some (String.utf8EncodeChar (Char.ofNat code)) := by
  have same : (Char.ofNat code).toNat = code := by
    rw [Char.ofNat, dif_pos scalar]
    rfl
  conv_lhs => rw [← same]
  exact encodeAsUtf8_toNat _

/-- A short escape puts one byte out. -/
theorem escapeSequence_short {letter : UInt8} {c : Char} (short : Json.shortEscape letter = some c)
    (rest : Bytes) : escapeSequence (byte '\\' :: letter :: rest) = some ([byte c], 2) := by
  obtain ⟨entry, found, rfl⟩ := Option.map_eq_some_iff.mp short
  have listed := List.mem_of_find?_eq_some found
  have written : byte entry.2 = letter := by simpa using List.find?_some found
  subst written
  simp only [Json.shortEscapes, List.mem_cons, List.not_mem_nil, or_false] at listed
  rcases listed with rfl | rfl | rfl | rfl | rfl | rfl | rfl | rfl <;> rfl

/-- The escape of a code unit that is no surrogate. -/
theorem utf16LiteralToUtf8_code {d₁ d₂ d₃ d₄ : UInt8} {code : ℕ}
    (hex : hexCode [d₁, d₂, d₃, d₄] = some code) (notHigh : ¬ (0xD800 ≤ code ∧ code < 0xDC00))
    (notLow : ¬ (0xDC00 ≤ code ∧ code < 0xE000)) (rest : Bytes) :
    utf16LiteralToUtf8 (byte '\\' :: byte 'u' :: d₁ :: d₂ :: d₃ :: d₄ :: rest) =
      some (String.utf8EncodeChar (Char.ofNat code), 6) := by
  obtain ⟨read, small⟩ := parseHex4_of_hexCode hex rest
  have encoded := encodeAsUtf8_ofNat (show code.isValidChar by unfold Nat.isValidChar; omega)
  have first : parseHex4 ((byte '\\' :: byte 'u' :: d₁ :: d₂ :: d₃ :: d₄ :: rest).drop 2) = code :=
    read
  rw [utf16LiteralToUtf8, if_neg (by simp), first, if_neg (by omega), if_neg (by omega), encoded]
  rfl

/-- The escapes of two surrogates. -/
theorem utf16LiteralToUtf8_pair {d₁ d₂ d₃ d₄ e₁ e₂ e₃ e₄ : UInt8} {high low : ℕ}
    (first : hexCode [d₁, d₂, d₃, d₄] = some high) (isHigh : 0xD800 ≤ high ∧ high < 0xDC00)
    (second : hexCode [e₁, e₂, e₃, e₄] = some low) (isLow : 0xDC00 ≤ low ∧ low < 0xE000)
    (rest : Bytes) :
    utf16LiteralToUtf8 (byte '\\' :: byte 'u' :: d₁ :: d₂ :: d₃ :: d₄ ::
        byte '\\' :: byte 'u' :: e₁ :: e₂ :: e₃ :: e₄ :: rest) =
      some (String.utf8EncodeChar
        (Char.ofNat (0x10000 + (high - 0xD800) * 0x400 + (low - 0xDC00))), 12) := by
  obtain ⟨readHigh, -⟩ := parseHex4_of_hexCode first
    (byte '\\' :: byte 'u' :: e₁ :: e₂ :: e₃ :: e₄ :: rest)
  obtain ⟨readLow, -⟩ := parseHex4_of_hexCode second rest
  have firstCode : parseHex4 ((byte '\\' :: byte 'u' :: d₁ :: d₂ :: d₃ :: d₄ ::
      byte '\\' :: byte 'u' :: e₁ :: e₂ :: e₃ :: e₄ :: rest).drop 2) = high := readHigh
  have dropped : (byte '\\' :: byte 'u' :: d₁ :: d₂ :: d₃ :: d₄ ::
      byte '\\' :: byte 'u' :: e₁ :: e₂ :: e₃ :: e₄ :: rest).drop 6 =
      byte '\\' :: byte 'u' :: e₁ :: e₂ :: e₃ :: e₄ :: rest := rfl
  have secondCode : parseHex4 ((byte '\\' :: byte 'u' :: e₁ :: e₂ :: e₃ :: e₄ :: rest).drop 2) =
      low := readLow
  have marked : (byte '\\' :: byte 'u' :: e₁ :: e₂ :: e₃ :: e₄ :: rest).take 2 =
      [byte '\\', byte 'u'] := rfl
  -- the two halves put the ten high and the ten low bits together
  have joined : 0x10000 + (((high &&& 0x3FF) <<< 10) ||| (low &&& 0x3FF)) =
      0x10000 + (high - 0xD800) * 0x400 + (low - 0xDC00) := by
    rw [show (0x3FF : ℕ) = 2 ^ 10 - 1 from rfl, Nat.and_two_pow_sub_one_eq_mod,
      Nat.and_two_pow_sub_one_eq_mod, ← Nat.shiftLeft_add_eq_or_of_lt (Nat.mod_lt _ (by omega)),
      Nat.shiftLeft_eq]
    omega
  have scalar : (0x10000 + (high - 0xD800) * 0x400 + (low - 0xDC00)).isValidChar := by
    unfold Nat.isValidChar
    omega
  rw [utf16LiteralToUtf8, if_neg (by simp), firstCode, if_neg (by omega), if_pos (by omega),
    dropped, if_neg (by simp), if_neg (by rw [marked]; exact fun differ => differ rfl),
    secondCode, if_neg (by omega), joined, encodeAsUtf8_ofNat scalar]
  rfl

/-- What is between the quotes is decoded as the grammar says. -/
theorem unescapeFrom_of_decodeBody {body bytes : Bytes} (decoded : decodeBody body = some bytes) :
    unescapeFrom 0 body = some bytes := by
  fun_induction decodeBody body generalizing bytes with
  | case1 => exact decoded
  | case5 d₁ d₂ d₃ d₄ high first isHigh b' u e₁ e₂ e₃ e₄ left low second isLow ih =>
    obtain ⟨rfl, rfl, isLow⟩ := isLow
    obtain ⟨later, found, rfl⟩ := Option.map_eq_some_iff.mp decoded
    have sequence : escapeSequence (byte '\\' :: byte 'u' :: d₁ :: d₂ :: d₃ :: d₄ ::
        byte '\\' :: byte 'u' :: e₁ :: e₂ :: e₃ :: e₄ :: left) = some (_, 12) :=
      utf16LiteralToUtf8_pair first isHigh second isLow left
    have passed : unescapeFrom (12 - 1) (byte 'u' :: d₁ :: d₂ :: d₃ :: d₄ ::
        byte '\\' :: byte 'u' :: e₁ :: e₂ :: e₃ :: e₄ :: left) = unescapeFrom 0 left := rfl
    rw [unescapeFrom_backslash, sequence, Option.bind_some, passed, ih found, Option.map_some]
  | case9 d₁ d₂ d₃ d₄ left code hex notHigh notLow ih =>
    obtain ⟨later, found, rfl⟩ := Option.map_eq_some_iff.mp decoded
    have sequence : escapeSequence (byte '\\' :: byte 'u' :: d₁ :: d₂ :: d₃ :: d₄ :: left) =
        some (_, 6) := utf16LiteralToUtf8_code hex notHigh notLow left
    rw [unescapeFrom_backslash, sequence, Option.bind_some]
    exact congrArg (Option.map _) (ih found)
  | case11 letter rest notCode ih =>
    obtain ⟨c, short, decoded⟩ := Option.bind_eq_some_iff.mp decoded
    obtain ⟨later, found, rfl⟩ := Option.map_eq_some_iff.mp decoded
    rw [unescapeFrom_backslash, escapeSequence_short short, Option.bind_some]
    exact congrArg (Option.map _) (ih found)
  | case13 b rest notBackslash plain ih =>
    obtain ⟨later, found, rfl⟩ := Option.map_eq_some_iff.mp decoded
    rw [unescapeFrom, if_pos notBackslash, ih found]
    rfl
  | case2 | case3 | case4 | case6 | case7 | case8 | case10 | case12 =>
    exact absurd decoded (by simp)

theorem stringBody_of_closed {body : Bytes} (closed : Closed body) (rest : Bytes) :
    stringBody (body ++ byte '"' :: rest) = some (body, rest) := by
  induction closed with
  | nil => exact stringBody_quote rest
  | plain notQuote notBackslash _ ih =>
    rw [List.cons_append, stringBody_plainByte notQuote notBackslash, ih]
    rfl
  | escaped b _ ih =>
    rw [List.cons_append, List.cons_append, stringBody_escaped, ih]
    rfl

/-- A string is read to the bytes it stands for, up to the first NUL. -/
theorem parseString_quoted {body bytes : Bytes} (closed : Closed body)
    (decoded : decodeBody body = some bytes) (rest : Bytes) :
    parseString (quoted body ++ rest) = some (CStr.ofBytes bytes, rest) := by
  have inside : quoted body ++ rest = byte '"' :: (body ++ byte '"' :: rest) := by
    simp [quoted]
  rw [inside, parseString, if_neg (fun differ => differ rfl), stringBody_of_closed closed]
  dsimp only
  rw [unescapeFrom_of_decodeBody decoded]

/-! ## Items -/

mutual

/-- The item for what a text says. -/
def itemOfDatum : Datum → Item
  | .null => .null
  | .bool value => .bool value
  | .number value => .number (Binary64.held value)
  | .string bytes => .string (CStr.ofBytes bytes)
  | .array items => .array (itemsOfData items)
  | .object members => .object (childrenOfData members)

def itemsOfData : List Datum → List Item
  | [] => []
  | d :: rest => itemOfDatum d :: itemsOfData rest

def childrenOfData : List (Bytes × Datum) → List (CStr × Item)
  | [] => []
  | (name, d) :: rest => (CStr.ofBytes name, itemOfDatum d) :: childrenOfData rest

end

/-- What an array or an object has for an entry. -/
def Child : Bracket → Type
  | .square => Item
  | .curly => CStr × Item

def childOf : (bracket : Bracket) → Entry bracket → Child bracket
  | .square, d => itemOfDatum d
  | .curly, (name, d) => (CStr.ofBytes name, itemOfDatum d)

/-- The array or object of the children. -/
def bracketItem : (bracket : Bracket) → List (Child bracket) → Item
  | .square => .array
  | .curly => .object

theorem itemOfDatum_datum (bracket : Bracket) (entries : List (Entry bracket)) :
    itemOfDatum (bracket.datum entries) = bracketItem bracket (entries.map (childOf bracket)) := by
  cases bracket with
  | square =>
    refine congrArg Item.array ?_
    induction entries with
    | nil => rfl
    | cons d rest ih => exact congrArg (itemOfDatum d :: ·) ih
  | curly =>
    refine congrArg Item.object ?_
    induction entries with
    | nil => rfl
    | cons member rest ih => exact congrArg ((CStr.ofBytes member.1, itemOfDatum member.2) :: ·) ih

/-! ## The parser by brackets -/

/-- The loops of `parse_array` and `parse_object`. -/
def parseLoop : (bracket : Bracket) → ℕ → ℕ → Bytes → Option (List (Child bracket) × Bytes)
  | .square => parseElements
  | .curly => parseMembers

/-- What the loops read of an entry. -/
def parseChild : (bracket : Bracket) → ℕ → ℕ → Bytes → Option (Child bracket × Bytes)
  | .square, fuel, depth, rest => parseValue fuel depth rest
  | .curly, fuel, depth, rest =>
    (parseString rest).bind fun name =>
      match skipWhitespace name.2 with
      | [] => none
      | colon :: value =>
        if colon ≠ byte ':' then none
        else
          (parseValue fuel depth (skipWhitespace value)).map fun item => ((name.1, item.1), item.2)

theorem parseValue_opening (bracket : Bracket) (fuel depth : ℕ) (inner : Bytes) :
    parseValue (fuel + 1) depth (bracket.opening :: inner) =
      if nestingLimit ≤ depth then none
      else afterBracket bracket.closing (parseLoop bracket fuel (depth + 1)) (bracketItem bracket)
        inner := by
  cases bracket <;> rfl

theorem parseLoop_succ (bracket : Bracket) (fuel depth : ℕ) (rest : Bytes) :
    parseLoop bracket (fuel + 1) depth rest =
      (parseChild bracket fuel depth (skipWhitespace rest)).bind fun child =>
        match skipWhitespace child.2 with
        | [] => none
        | next :: more =>
          if next = byte ',' then
            (parseLoop bracket fuel depth more).map fun parsed => (child.1 :: parsed.1, parsed.2)
          else if next = bracket.closing then some ([child.1], more)
          else none := by
  cases bracket with
  | square =>
    rw [parseLoop, parseElements, parseChild]
    cases parseValue fuel depth (skipWhitespace rest) <;> rfl
  | curly =>
    rw [parseLoop, parseMembers, parseChild]
    cases parseString (skipWhitespace rest) with
    | none => rfl
    | some name =>
      rw [Option.bind_some]
      dsimp only
      cases skipWhitespace name.2 with
      | nil => rfl
      | cons colon value =>
        dsimp only
        split_ifs with other
        · rfl
        · cases parseValue fuel depth (skipWhitespace value) <;> rfl

theorem parseLoop_zero (bracket : Bracket) (depth : ℕ) (rest : Bytes) :
    parseLoop bracket 0 depth rest = none := by
  cases bracket <;> rfl

/-- The loops pass over white space first. -/
theorem parseLoop_skipWhitespace {bracket : Bracket} {fuel depth : ℕ} {s t : Bytes}
    (same : skipWhitespace s = skipWhitespace t) :
    parseLoop bracket fuel depth s = parseLoop bracket fuel depth t := by
  cases fuel with
  | zero => rw [parseLoop_zero, parseLoop_zero]
  | succ fuel => rw [parseLoop_succ, parseLoop_succ, same]

/-! ## Texts -/

/-- The JSON grammar with numbers that fit the number buffer. -/
def fitting : Lexis :=
  { Lexis.json with
    Word := fun word => Json.IsValueWord word ∧ word.length ≤ 63
    isWord := fun word => Lexis.json.isWord word.1 }

theorem delimits_of_ends {rest : Bytes} (ends : Json.Ends rest) : Delimits rest := by
  intro b first
  cases number : isNumberByte b with
  | false => rfl
  | true =>
    have goesOn := isMark_of_isNumberByte number
    rw [ends b first] at goesOn
    exact absurd goesOn (by simp)

/-- Behind white space the text begins with a value or a name. -/
def Begins (text : Bytes) : Prop :=
  ∃ gap value, text = gap ++ value ∧ (∀ b ∈ gap, b ≤ 32) ∧ Starts value

theorem Begins.append {text : Bytes} (begins : Begins text) (rest : Bytes) :
    Begins (text ++ rest) := by
  obtain ⟨gap, value, rfl, blank, starts⟩ := begins
  exact ⟨gap, value ++ rest, List.append_assoc _ _ _, blank, starts.append rest⟩

theorem Starts.skipWhitespace_gap {value gap : Bytes} (starts : Starts value)
    (blank : ∀ b ∈ gap, b ≤ 32) (rest : Bytes) :
    skipWhitespace (gap ++ (value ++ rest)) = value ++ rest := by
  obtain ⟨b, more, rfl, visible, -⟩ := starts
  exact CJson.skipWhitespace_gap blank visible (more ++ rest)

/-- What cJSON makes of a value in front of whatever ends it. -/
def ReadsValue (text : Bytes) (d : Datum) : Prop :=
  ∀ fuel depth rest, 2 * text.length ≤ fuel → depth + d.depth ≤ nestingLimit → Json.Ends rest →
    parseValue fuel depth (text ++ rest) = some (itemOfDatum d, rest)

/-- What the loops make of an entry before a comma or the closing bracket. -/
def ReadsEntry (bracket : Bracket) (text : Bytes) (said : Entry bracket) : Prop :=
  ∀ fuel depth next more, 2 * text.length ≤ fuel →
    depth + Json.entryDepth bracket said ≤ nestingLimit → 32 < next → Json.isMark next = true →
    ∃ left, parseChild bracket fuel depth (skipWhitespace (text ++ next :: more)) =
        some (childOf bracket said, left) ∧ skipWhitespace left = next :: more

def ReadsEntries (bracket : Bracket) (text : Bytes) (said : List (Entry bracket)) : Prop :=
  ∀ fuel depth rest, 2 * text.length + 1 ≤ fuel →
    depth + Json.entriesDepth bracket said ≤ nestingLimit →
    parseLoop bracket fuel depth (text ++ bracket.closing :: rest) =
      some (said.map (childOf bracket), rest)

def ReadsPart : (part : Part) → Bytes → Said part → Prop
  | .value, text, d => Starts text ∧ ReadsValue text d
  | .entry bracket, text, said => Begins text ∧ ReadsEntry bracket text said
  | .entries bracket, text, said => Begins text ∧ ReadsEntries bracket text said

theorem starts_word {word : Bytes} (isWord : Json.IsValueWord word) : Starts word := by
  rcases isWord with listed | ⟨n, rfl⟩
  · simp only [List.mem_cons, List.not_mem_nil, or_false] at listed
    rcases listed with rfl | rfl | rfl
    · exact starts_text encoder .null
    · exact starts_text encoder (.bool true)
    · exact starts_text encoder (.bool false)
  · exact starts_text encoder (.number n)

theorem starts_quoted (body : Bytes) : Starts (quoted body) := ⟨byte '"', _, rfl, by decide⟩

theorem starts_opening (bracket : Bracket) (rest : Bytes) : Starts (bracket.opening :: rest) := by
  cases bracket <;> exact ⟨_, rest, rfl, by decide⟩

theorem readsValue_word {word : Bytes} {d : Datum} (isWord : Json.IsValueWord word)
    (short : word.length ≤ 63) (decoded : decodeWord word = some d) : ReadsValue word d := by
  intro fuel depth rest enough shallow ends
  obtain ⟨b, more, begins, -⟩ := starts_word isWord
  obtain ⟨fuel, rfl⟩ : ∃ n, fuel = n + 1 := by
    rw [begins] at enough
    exact ⟨fuel - 1, by simp at enough; omega⟩
  rcases isWord with listed | ⟨n, rfl⟩
  · simp only [List.mem_cons, List.not_mem_nil, or_false] at listed
    rcases listed with rfl | rfl | rfl
    · obtain rfl : Datum.null = d := Option.some.inj decoded
      rfl
    · obtain rfl : Datum.bool true = d := Option.some.inj decoded
      rfl
    · obtain rfl : Datum.bool false = d := Option.some.inj decoded
      rfl
  · rw [Json.decodeWord_text] at decoded
    obtain rfl := Option.some.inj decoded
    obtain ⟨b, more, begins, kind⟩ := exists_number_text_eq_cons n
    have read := parseNumber_text short (delimits_of_ends ends)
    rw [begins, List.cons_append] at read ⊢
    rw [parseValue_number fuel depth kind, read]
    rfl

theorem readsValue_string {body bytes : Bytes} (closed : Closed body)
    (decoded : decodeBody body = some bytes) :
    ReadsValue (quoted body) (.string bytes) := by
  intro fuel depth rest enough shallow ends
  cases fuel with
  | zero => simp [quoted] at enough
  | succ fuel =>
    have read := parseString_quoted closed decoded rest
    rw [quoted, List.cons_append] at read ⊢
    rw [parseValue_string, read]
    rfl

theorem readsValue_empty (bracket : Bracket) {gap : Bytes} (blank : ∀ b ∈ gap, b ≤ 32) :
    ReadsValue (bracket.opening :: (gap ++ [bracket.closing])) (bracket.datum []) := by
  intro fuel depth rest enough shallow ends
  cases fuel with
  | zero => simp at enough
  | succ fuel =>
    have visible : 32 < bracket.closing := by cases bracket <;> decide
    rw [Json.depth_datum] at shallow
    rw [List.cons_append, List.append_assoc, List.singleton_append, parseValue_opening,
      if_neg (by omega), afterBracket, skipWhitespace_gap blank visible]
    dsimp only
    rw [if_pos rfl, itemOfDatum_datum]
    rfl

theorem ReadsEntries.value {bracket : Bracket} {inner : Bytes} {said : List (Entry bracket)}
    (begins : Begins inner) (entries : ReadsEntries bracket inner said) :
    ReadsValue (bracket.opening :: (inner ++ [bracket.closing])) (bracket.datum said) := by
  intro fuel depth rest enough shallow ends
  cases fuel with
  | zero => simp at enough
  | succ fuel =>
    rw [Json.depth_datum] at shallow
    rw [List.length_cons, List.length_append, List.length_singleton] at enough
    have read := entries fuel (depth + 1) rest (by omega) (by omega)
    obtain ⟨gap, value, rfl, blank, starts⟩ := begins
    have skipped : skipWhitespace (gap ++ value ++ bracket.closing :: rest) =
        value ++ bracket.closing :: rest := by
      rw [List.append_assoc]
      exact starts.skipWhitespace_gap blank _
    have again : skipWhitespace (value ++ bracket.closing :: rest) =
        value ++ bracket.closing :: rest := skipWhitespace_of_starts starts _
    rw [parseLoop_skipWhitespace (skipped.trans again.symm)] at read
    rw [List.cons_append, List.append_assoc, List.singleton_append, parseValue_opening,
      if_neg (by omega), afterBracket, skipped]
    obtain ⟨first, more, rfl, -, notSquare, notCurly, -⟩ := starts
    have goesOn : first ≠ bracket.closing := by cases bracket <;> assumption
    rw [List.cons_append] at read ⊢
    dsimp only
    rw [if_neg goesOn, read, itemOfDatum_datum]
    rfl

theorem ReadsValue.element {before value after : Bytes} {d : Datum}
    (blank : ∀ b ∈ before, b ≤ 32) (starts : Starts value) (own : ReadsValue value d)
    (blank' : ∀ b ∈ after, b ≤ 32) :
    ReadsEntry .square (before ++ (value ++ after)) d := by
  intro fuel depth next more enough shallow visible mark
  rw [List.length_append, List.length_append] at enough
  have ends : Json.Ends (after ++ next :: more) :=
    Json.Ends.blanks (Json.ends_cons mark more) blank'
  refine ⟨after ++ next :: more, ?_, skipWhitespace_gap blank' visible more⟩
  rw [List.append_assoc, List.append_assoc, starts.skipWhitespace_gap blank]
  exact own fuel depth _ (by omega) shallow ends

theorem ReadsEntry.member {before body after element name : Bytes} {d : Datum}
    (blank : ∀ b ∈ before, b ≤ 32) (closed : Closed body) (decoded : decodeBody body = some name)
    (blank' : ∀ b ∈ after, b ≤ 32) (own : ReadsEntry .square element d) :
    ReadsEntry .curly (before ++ (quoted body ++ (after ++ byte ':' :: element))) (name, d) := by
  intro fuel depth next more enough shallow visible mark
  simp only [List.length_append, List.length_cons] at enough
  obtain ⟨left, read, skipped⟩ := own fuel depth next more (by omega) shallow visible mark
  have colon : skipWhitespace (after ++ byte ':' :: (element ++ next :: more)) =
      byte ':' :: (element ++ next :: more) := skipWhitespace_gap blank' (by decide) _
  refine ⟨left, ?_, skipped⟩
  rw [List.append_assoc, List.append_assoc, (starts_quoted body).skipWhitespace_gap blank,
    List.append_assoc, List.cons_append, parseChild, parseString_quoted closed decoded,
    Option.bind_some]
  dsimp only
  rw [colon]
  dsimp only
  rw [if_neg (fun differ => differ rfl),
    show parseValue fuel depth (skipWhitespace (element ++ next :: more)) = _ from read]
  rfl

theorem ReadsEntry.last {bracket : Bracket} {text : Bytes} {said : Entry bracket}
    (own : ReadsEntry bracket text said) : ReadsEntries bracket text [said] := by
  intro fuel depth rest enough shallow
  rw [Json.entriesDepth_cons, Json.entriesDepth_nil] at shallow
  have closing : 32 < bracket.closing ∧ Json.isMark bracket.closing = true ∧
      bracket.closing ≠ byte ',' := by cases bracket <;> decide
  cases fuel with
  | zero => omega
  | succ fuel =>
    obtain ⟨left, read, skipped⟩ := own fuel depth bracket.closing rest (by omega) (by omega)
      closing.1 closing.2.1
    rw [parseLoop_succ, read, Option.bind_some]
    dsimp only
    rw [skipped]
    dsimp only
    rw [if_neg closing.2.2, if_pos rfl]
    rfl

theorem ReadsEntry.more {bracket : Bracket} {text later : Bytes} {said : Entry bracket}
    {others : List (Entry bracket)} (own : ReadsEntry bracket text said)
    (entries : ReadsEntries bracket later others) :
    ReadsEntries bracket (text ++ byte ',' :: later) (said :: others) := by
  intro fuel depth rest enough shallow
  rw [Json.entriesDepth_cons] at shallow
  rw [List.length_append, List.length_cons] at enough
  cases fuel with
  | zero => omega
  | succ fuel =>
    obtain ⟨left, read, skipped⟩ := own fuel depth (byte ',')
      (later ++ bracket.closing :: rest) (by omega) (by omega) (by decide) (by decide)
    have remaining := entries fuel depth rest (by omega) (by omega)
    rw [List.append_assoc, List.cons_append, parseLoop_succ, read, Option.bind_some]
    dsimp only
    rw [skipped]
    dsimp only
    rw [if_pos rfl, remaining]
    rfl

/-- cJSON reads every part of a text as it is meant. -/
theorem readsPart_of_means {part : Part} {text : Bytes} {said : Said part}
    (means : Means fitting part text said) : ReadsPart part text said := by
  -- over the grammar
  induction means with
  | word word decoded =>
    exact ⟨starts_word word.1, readsValue_word word.1 word.2 decoded⟩
  | string string decoded =>
    exact ⟨starts_quoted _, readsValue_string string.closed decoded⟩
  | empty bracket blank => exact ⟨starts_opening bracket _, readsValue_empty bracket blank.le⟩
  | filled entries ih => exact ⟨starts_opening _ _, ih.2.value ih.1⟩
  | element blank means blank' ih =>
    exact ⟨⟨_, _, rfl, blank.le, ih.1.append _⟩, ih.2.element blank.le ih.1 blank'.le⟩
  | member blank string decoded blank' means ih =>
    exact ⟨⟨_, _, rfl, blank.le, (starts_quoted _).append _⟩,
      ih.2.member blank.le string.closed decoded blank'.le⟩
  | last means ih => exact ⟨ih.1, ih.2.last⟩
  | more means entries ih ih' => exact ⟨ih.1.append _, ih.2.more ih'.2⟩

/-! ## Documents -/

/-- The line is a JSON text with white space around it that says this, within the limits of
cJSON on the length of numbers and on nesting. -/
structure LineDenotes (line : Bytes) (said : Datum) : Prop where
  exists_text : ∃ before text after, line = before ++ (text ++ after) ∧
    Lexis.json.Gap before ∧ Lexis.json.Gap after ∧ Denotes text said ∧
      ∀ word, Token.word word ∈ tokens text → word.length ≤ 63
  shallow : said.depth ≤ nestingLimit

theorem LineDenotes.zero_notMem {line : Bytes} {said : Datum} (denotes : LineDenotes line said) :
    (0 : UInt8) ∉ line := by
  obtain ⟨before, text, after, rfl, blank, blank', inside, -⟩ := denotes.exists_text
  intro zero
  rcases List.mem_append.mp zero with here | zero
  · exact Json.zero_notMem_gap blank here
  rcases List.mem_append.mp zero with here | there
  · exact Json.Text.zero_notMem inside.valid here
  · exact Json.zero_notMem_gap blank' there

/-- A text whose numbers fit the buffer, along the grammar. -/
theorem means_of_denotes {text : Bytes} {said : Datum} (denotes : Denotes text said)
    (short : ∀ word, Token.word word ∈ tokens text → word.length ≤ 63) :
    Means fitting .value text said := by
  have allowed := (denotes.valid.of_other_iff .json).mp denotes.valid
  have valid : Json.Text fitting .value text := by
    refine (denotes.valid.of_other_iff fitting).mpr fun token member => ?_
    cases token with
    | word word => exact ⟨allowed _ member, short word member⟩
    | string body => exact allowed _ member
    | mark b => exact allowed _ member
  exact Json.Text.means id valid denotes.decodes

/-- The scanner, set at the first byte of the line that is neither a byte order mark nor white
space, reads what the line says and leaves what follows the text. -/
theorem LineDenotes.parseValue_eq {line : Bytes} {said : Datum} (denotes : LineDenotes line said) :
    ∃ rest, parseValue (2 * (content (CStr.ofBytes line)).length) 0
      (skipWhitespace (skipUtf8Bom (content (CStr.ofBytes line)))) =
        some (itemOfDatum said, rest) := by
  have whole := CStr.ofBytes_bytes_of_notMem denotes.zero_notMem
  obtain ⟨before, text, after, rfl, blank, blank', inside, short⟩ := denotes.exists_text
  obtain ⟨starts, reads⟩ := readsPart_of_means (means_of_denotes inside short)
  have bytes : content (CStr.ofBytes (before ++ (text ++ after))) =
      before ++ (text ++ (after ++ [0])) := by
    rw [content, whole, List.append_assoc, List.append_assoc]
  have ends : Json.Ends (after ++ [0]) :=
    Json.Ends.blanks (Json.ends_cons (Json.isMark_of_le (by decide)) []) blank'.le
  have enough : 2 * text.length ≤ 2 * (before ++ (text ++ (after ++ [0]))).length := by
    rw [List.length_append, List.length_append]
    omega
  have skipped := starts.skipWhitespace_gap blank.le (after ++ [0])
  have unmarked : skipUtf8Bom (before ++ (text ++ (after ++ [0]))) =
      before ++ (text ++ (after ++ [0])) := by
    obtain ⟨b, more, rfl, -, -, -, ascii⟩ := starts
    exact skipUtf8Bom_gap blank ascii _
  refine ⟨after ++ [0], ?_⟩
  rw [bytes, unmarked, skipped,
    reads _ 0 _ enough (by rw [Nat.zero_add]; exact denotes.shallow) ends]

/-- **`cJSON_Parse` reads JSON.** Whatever a JSON text says, and however it is written, is
what the item holds. -/
theorem parse_of_denotes {line : Bytes} {said : Datum} (denotes : LineDenotes line said) :
    parse (CStr.ofBytes line) = some (itemOfDatum said) := by
  obtain ⟨rest, reads⟩ := denotes.parseValue_eq
  rw [parse, reads]
  rfl

/-- A text with white space and an escape where the bridge writes none. -/
theorem parse_of_denotes_spaced :
    parse (CStr.ofBytes (lit "[ \"\\u0041\" ]\n")) = some (.array [.string (text "A")]) := by
  have blank : Lexis.json.Gap [byte ' '] := List.forall_mem_singleton.mpr (.inl rfl)
  have newline : Lexis.json.Gap (lit "\n") :=
    List.forall_mem_singleton.mpr (.inr (.inr (.inl rfl)))
  have hex : ∀ b ∈ [byte '0', byte '0', byte '4', byte '1'], Json.IsHexDigit b := by
    simp only [List.forall_mem_cons]
    exact ⟨⟨true, 0, rfl⟩, ⟨true, 0, rfl⟩, ⟨true, 4, rfl⟩, ⟨true, 1, rfl⟩, List.forall_mem_nil _⟩
  have inner : Json.Text .json (.entries .square) ([byte ' '] ++ (quoted (lit "\\u0041") ++
      [byte ' '])) := .last (.element blank (.string (.unicode rfl hex .nil)) blank)
  have significant : Json.significantTokens (lit "[ \"\\u0041\" ]") =
      [.mark (byte '['), .string (lit "\\u0041"), .mark (byte ']')] := by decide +kernel
  have name : decodeBody (lit "\\u0041") = some (lit "A") := by decide +kernel
  have elements : Json.decodeElements 6 [.string (lit "\\u0041"), .mark (byte ']')] =
      some ([.string (lit "A")], []) := by
    rw [Json.decodeElements, Json.decodeValue, name]
    rfl
  have opens : Json.behindMark (byte ']') [.string (lit "\\u0041"), .mark (byte ']')] = none := rfl
  have decodes : Json.decode (lit "[ \"\\u0041\" ]") = some (.array [.string (lit "A")]) := by
    rw [Json.decode, significant]
    simp only [List.length_cons, List.length_nil]
    rw [Json.decodeValue, if_pos rfl, opens, elements]
    rfl
  have line : LineDenotes (lit "[ \"\\u0041\" ]\n") (.array [.string (lit "A")]) := by
    refine ⟨⟨[], _, lit "\n", rfl, List.forall_mem_nil _, newline, ⟨.filled inner, decodes⟩, ?_⟩,
      by decide⟩
    have words : ∀ token ∈ tokens (lit "[ \"\\u0041\" ]"), token ∈ [Token.mark (byte '['),
        .mark (byte ' '), .string (lit "\\u0041"), .mark (byte ']')] := by decide +kernel
    intro word member
    simpa using words _ member
  exact parse_of_denotes line

end CapacityAgent.CJson
