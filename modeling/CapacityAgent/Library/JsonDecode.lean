/-
# Decoding JSON

What a JSON text says. A decoder takes the tokens of the text apart: strings are the bytes
they stand for, numbers the decimals, objects the list of their members. The decoder goes
on over a token list that continues, so the text of an object can be put together from the
texts of its members.
-/

import CapacityAgent.Library.JsonLexis

namespace Json

open Utf8 (byte lit)

/-- What a text says. -/
inductive Datum
  | null
  | bool (value : Bool)
  | number (value : ℚ)
  | string (bytes : List UInt8)
  | array (items : List Datum)
  | object (members : List (List UInt8 × Datum))

/-! ## Words -/

def isDigitByte (b : UInt8) : Bool := byte '0' ≤ b && b ≤ byte '9'

def digitOf (b : UInt8) : Digit := Fin.ofNat 10 (b.toNat - 48)

/-- The digits at the start, and what follows. -/
def spanDigits (s : List UInt8) : List Digit × List UInt8 :=
  ((s.takeWhile isDigitByte).map digitOf, s.dropWhile isDigitByte)

/-- Whether the first byte is the given one, and what follows it if so. -/
def skipByte (b : UInt8) : List UInt8 → Bool × List UInt8
  | [] => (false, [])
  | c :: rest => if c = b then (true, rest) else (false, c :: rest)

/-- A fraction part, which is not empty behind its point. -/
def decodeFraction (s : List UInt8) : Option (List Digit × List UInt8) :=
  let point := skipByte (byte '.') s
  let digits := spanDigits point.2
  if point.1 then if digits.1 = [] then none else some digits else some ([], s)

/-- The exponent that is all of the bytes. -/
def decodeExponent (s : List UInt8) : Option ℤ :=
  match s with
  | [] => some 0
  | letter :: rest =>
    let minus := skipByte (byte '-') rest
    let plus := skipByte (byte '+') rest
    let digits := spanDigits (if minus.1 then minus.2 else plus.2)
    if (letter = byte 'e' ∨ letter = byte 'E') ∧ digits.1 ≠ [] ∧ digits.2 = [] then
      some (if minus.1 then -digitsValue digits.1 else digitsValue digits.1)
    else none

/-- The number that is all of the bytes. -/
def decodeNumber (s : List UInt8) : Option ℚ :=
  let sign := skipByte (byte '-') s
  let whole := spanDigits sign.2
  -- a leading zero stands alone
  if whole.1 = [] ∨ (whole.1.head? = some 0 ∧ whole.1 ≠ [0]) then none
  else
    (decodeFraction whole.2).bind fun fraction =>
      (decodeExponent fraction.2).map fun exponent =>
        Number.decimal sign.1 whole.1 fraction.1 exponent

def decodeWord (s : List UInt8) : Option Datum :=
  if s = lit "null" then some .null
  else if s = lit "true" then some (.bool true)
  else if s = lit "false" then some (.bool false)
  else (decodeNumber s).map .number

/-! ## Strings -/

def hexValue (b : UInt8) : Option ℕ :=
  if byte '0' ≤ b ∧ b ≤ byte '9' then some (b.toNat - 48)
  else if byte 'a' ≤ b ∧ b ≤ byte 'f' then some (b.toNat - 87)
  else if byte 'A' ≤ b ∧ b ≤ byte 'F' then some (b.toNat - 55)
  else none

/-- The code of four hexadecimal digits. -/
def hexCode (digits : List UInt8) : Option ℕ :=
  (digits.mapM hexValue).map fun values => values.foldl (16 * · + ·) 0

/-- The character of a short escape. -/
def shortEscape (letter : UInt8) : Option Char :=
  (shortEscapes.find? fun entry => byte entry.2 = letter).map Prod.fst

/-- The bytes that the inside of a string stands for. -/
def decodeBody : List UInt8 → Option (List UInt8)
  | [] => some []
  | b :: rest =>
    if b = byte '\\' then
      match rest with
      | [] => none
      | letter :: more =>
        if letter = byte 'u' then
          match more with
          | d₁ :: d₂ :: d₃ :: d₄ :: left =>
            match hexCode [d₁, d₂, d₃, d₄] with
            | none => none
            | some code =>
              if 0xD800 ≤ code ∧ code < 0xDC00 then
                -- a high surrogate needs a low one behind it
                match left with
                | b' :: u :: e₁ :: e₂ :: e₃ :: e₄ :: left' =>
                  match hexCode [e₁, e₂, e₃, e₄] with
                  | none => none
                  | some low =>
                    if b' = byte '\\' ∧ u = byte 'u' ∧ 0xDC00 ≤ low ∧ low < 0xE000 then
                      (decodeBody left').map (String.utf8EncodeChar
                        (Char.ofNat (0x10000 + (code - 0xD800) * 0x400 + (low - 0xDC00))) ++ ·)
                    else none
                | _ => none
              else if 0xDC00 ≤ code ∧ code < 0xE000 then none
              else (decodeBody left).map (String.utf8EncodeChar (Char.ofNat code) ++ ·)
          | _ => none
        else
          (shortEscape letter).bind fun c => (decodeBody more).map (byte c :: ·)
    else if b < 0x20 ∨ b = byte '"' then none
    else (decodeBody rest).map (b :: ·)

example : decodeBody (lit "a\\n\\u00e9\\ud83d\\ude00") =
    some (byte 'a' :: 10 :: [0xC3, 0xA9, 0xF0, 0x9F, 0x98, 0x80]) := by
  decide +kernel

/-! ## Values -/

/-- The mark is the first token; what follows it. -/
def behindMark (b : UInt8) : List Token → Option (List Token)
  | .mark c :: rest => if c = b then some rest else none
  | _ => none

mutual

/-- A value at the start of the tokens and what follows; the first argument bounds the
recursion. -/
def decodeValue : ℕ → List Token → Option (Datum × List Token)
  | 0, _ => none
  | _ + 1, [] => none
  | _ + 1, .word bytes :: rest => (decodeWord bytes).map (·, rest)
  | _ + 1, .string body :: rest => (decodeBody body).map fun bytes => (.string bytes, rest)
  | fuel + 1, .mark b :: rest =>
    if b = byte '[' then
      match behindMark (byte ']') rest with
      | some more => some (.array [], more)
      | none => (decodeElements fuel rest).map fun found => (.array found.1, found.2)
    else if b = byte '{' then
      match behindMark (byte '}') rest with
      | some more => some (.object [], more)
      | none => (decodeMembers fuel rest).map fun found => (.object found.1, found.2)
    else none

/-- Elements up to the closing bracket. -/
def decodeElements : ℕ → List Token → Option (List Datum × List Token)
  | 0, _ => none
  | fuel + 1, tokens =>
    (decodeValue fuel tokens).bind fun item =>
      match behindMark (byte ']') item.2 with
      | some more => some ([item.1], more)
      | none =>
        (behindMark (byte ',') item.2).bind fun more =>
          (decodeElements fuel more).map fun later => (item.1 :: later.1, later.2)

/-- Members up to the closing brace. -/
def decodeMembers : ℕ → List Token → Option (List (List UInt8 × Datum) × List Token)
  | fuel + 1, .string body :: tokens =>
    (decodeBody body).bind fun name =>
      (behindMark (byte ':') tokens).bind fun value =>
        (decodeValue fuel value).bind fun item =>
          match behindMark (byte '}') item.2 with
          | some more => some ([(name, item.1)], more)
          | none =>
            (behindMark (byte ',') item.2).bind fun more =>
              (decodeMembers fuel more).map fun later => ((name, item.1) :: later.1, later.2)
  | _, _ => none

end

/-- Not white space. -/
def Token.significant : Token → Bool
  | .mark b => !decide (IsWhitespace b)
  | .string _ | .word _ => true

/-- The tokens that are no white space. -/
def significantTokens (text : List UInt8) : List Token := (tokens text).filter Token.significant

/-- What a text says, if it is one value. -/
def decode (text : List UInt8) : Option Datum :=
  match decodeValue (2 * (significantTokens text).length + 1) (significantTokens text) with
  | some (datum, []) => some datum
  | _ => none

/-! ## Tokens that go on -/

section Extends

variable {α : Type}

/-- What is decoded from the tokens is decoded from more of them, with more room. -/
def ExtendsAt (read : ℕ → List Token → Option (α × List Token)) (fuel : ℕ) : Prop :=
  ∀ ts a left, read fuel ts = some (a, left) → ∀ fuel' ≥ fuel, ∀ rest,
    read fuel' (ts ++ rest) = some (a, left ++ rest)

theorem eq_of_behindMark {b : UInt8} {ts more : List Token} (found : behindMark b ts = some more) :
    ts = .mark b :: more := by
  unfold behindMark at found
  split at found
  · split_ifs at found with same
    rw [same, Option.some.inj found]
  · exact nomatch found

@[simp] theorem behindMark_self (b : UInt8) (rest : List Token) :
    behindMark b (.mark b :: rest) = some rest := if_pos rfl

theorem behindMark_append_none {b : UInt8} {ts : List Token} (absent : behindMark b ts = none)
    (nonempty : ts ≠ []) (rest : List Token) : behindMark b (ts ++ rest) = none := by
  obtain ⟨token, more, rfl⟩ := List.exists_cons_of_ne_nil nonempty
  cases token with
  | mark c =>
    by_cases same : c = b
    · rw [same, behindMark_self] at absent
      exact nomatch absent
    · exact if_neg same
  | string body => rfl
  | word bytes => rfl

/-- A list of entries ends or goes on, also where more tokens follow. -/
theorem entries_extend {close : UInt8} {loop : ℕ → List Token → Option (List α × List Token)}
    {fuel fuel' : ℕ} (extends_ : ExtendsAt loop fuel) (more : fuel ≤ fuel') {first : α}
    {behind left : List Token} {entries : List α}
    (read : (match behindMark close behind with
      | some more => some ([first], more)
      | none => (behindMark (byte ',') behind).bind fun more =>
          (loop fuel more).map fun later => (first :: later.1, later.2)) = some (entries, left))
    (rest : List Token) :
    (match behindMark close (behind ++ rest) with
      | some more => some ([first], more)
      | none => (behindMark (byte ',') (behind ++ rest)).bind fun more =>
          (loop fuel' more).map fun later => (first :: later.1, later.2)) =
      some (entries, left ++ rest) := by
  cases closed : behindMark close behind with
  | some ended =>
    rw [closed] at read
    obtain ⟨rfl, rfl⟩ := Prod.mk.inj (Option.some.inj read)
    rw [eq_of_behindMark closed, List.cons_append, behindMark_self]
  | none =>
    rw [closed] at read
    obtain ⟨goesOn, comma, later⟩ := Option.bind_eq_some_iff.mp read
    obtain ⟨⟨others, left'⟩, found, same⟩ := Option.map_eq_some_iff.mp later
    obtain ⟨rfl, rfl⟩ := Prod.mk.inj same
    have splits := eq_of_behindMark comma
    rw [behindMark_append_none closed (splits ▸ List.cons_ne_nil _ _), splits, List.cons_append,
      behindMark_self, Option.bind_some, extends_ _ _ _ found fuel' more rest]
    rfl

/-- A value in brackets, also where more tokens follow. -/
theorem bracket_extend {close : UInt8} {loop : ℕ → List Token → Option (List α × List Token)}
    {fuel fuel' : ℕ} (extends_ : ExtendsAt loop fuel) (more : fuel ≤ fuel')
    (nonempty : loop fuel [] = none) {datum : List α → Datum} {d : Datum}
    {inner left : List Token}
    (read : (match behindMark close inner with
      | some more => some (datum [], more)
      | none => (loop fuel inner).map fun found => (datum found.1, found.2)) = some (d, left))
    (rest : List Token) :
    (match behindMark close (inner ++ rest) with
      | some more => some (datum [], more)
      | none => (loop fuel' (inner ++ rest)).map fun found => (datum found.1, found.2)) =
      some (d, left ++ rest) := by
  cases closed : behindMark close inner with
  | some ended =>
    rw [closed] at read
    obtain ⟨rfl, rfl⟩ := Prod.mk.inj (Option.some.inj read)
    rw [eq_of_behindMark closed, List.cons_append, behindMark_self]
  | none =>
    rw [closed] at read
    obtain ⟨⟨entries, left'⟩, found, same⟩ := Option.map_eq_some_iff.mp read
    obtain ⟨rfl, rfl⟩ := Prod.mk.inj same
    have inside : inner ≠ [] := by
      rintro rfl
      exact nomatch nonempty.symm.trans found
    rw [behindMark_append_none closed inside, extends_ _ _ _ found fuel' more rest]
    rfl

end Extends

theorem decodeMembers_nil (fuel : ℕ) : decodeMembers fuel [] = none := by
  cases fuel <;> rw [decodeMembers] <;> simp

theorem decodeElements_nil (fuel : ℕ) : decodeElements fuel [] = none := by
  cases fuel with
  | zero => rw [decodeElements]
  | succ fuel => cases fuel <;> simp [decodeElements, decodeValue]

section Extend

variable {fuel : ℕ}

theorem decodeElements_extend (values : ExtendsAt decodeValue fuel)
    (loop : ExtendsAt decodeElements fuel) : ExtendsAt decodeElements (fuel + 1) := by
  intro ts items left read fuel' more rest
  obtain ⟨room, rfl⟩ := Nat.exists_eq_add_of_le' (Nat.le_of_add_left_le more)
  rw [decodeElements] at read ⊢
  obtain ⟨item, value, goesOn⟩ := Option.bind_eq_some_iff.mp read
  rw [values _ _ _ value _ (by omega) rest, Option.bind_some]
  exact entries_extend loop (by omega) goesOn rest

theorem decodeMembers_extend (values : ExtendsAt decodeValue fuel)
    (loop : ExtendsAt decodeMembers fuel) : ExtendsAt decodeMembers (fuel + 1) := by
  intro ts members left read fuel' more rest
  obtain ⟨room, rfl⟩ := Nat.exists_eq_add_of_le' (Nat.le_of_add_left_le more)
  match ts with
  | .string body :: tokens =>
    rw [decodeMembers] at read
    rw [List.cons_append, decodeMembers]
    obtain ⟨name, named, read⟩ := Option.bind_eq_some_iff.mp read
    obtain ⟨value, colon, read⟩ := Option.bind_eq_some_iff.mp read
    obtain ⟨item, decoded, goesOn⟩ := Option.bind_eq_some_iff.mp read
    rw [named, Option.bind_some, eq_of_behindMark colon, List.cons_append, behindMark_self,
      Option.bind_some, values _ _ _ decoded _ (by omega) rest, Option.bind_some]
    exact entries_extend loop (by omega) goesOn rest
  | [] => exact nomatch (decodeMembers_nil _).symm.trans read
  | .word _ :: _ => simp [decodeMembers] at read
  | .mark _ :: _ => simp [decodeMembers] at read

theorem decodeValue_extend (elements : ExtendsAt decodeElements fuel)
    (members : ExtendsAt decodeMembers fuel) : ExtendsAt decodeValue (fuel + 1) := by
  intro ts d left read fuel' more rest
  obtain ⟨room, rfl⟩ := Nat.exists_eq_add_of_le' (Nat.le_of_add_left_le more)
  match ts with
  | [] => simp [decodeValue] at read
  | .word bytes :: ts =>
    rw [decodeValue] at read
    rw [List.cons_append, decodeValue]
    obtain ⟨datum, decoded, same⟩ := Option.map_eq_some_iff.mp read
    obtain ⟨rfl, rfl⟩ := Prod.mk.inj same
    rw [decoded]
    rfl
  | .string body :: ts =>
    rw [decodeValue] at read
    rw [List.cons_append, decodeValue]
    obtain ⟨bytes, decoded, same⟩ := Option.map_eq_some_iff.mp read
    obtain ⟨rfl, rfl⟩ := Prod.mk.inj same
    rw [decoded]
    rfl
  | .mark b :: ts =>
    rw [decodeValue] at read
    rw [List.cons_append, decodeValue]
    split_ifs at read ⊢ with square curly
    · exact bracket_extend elements (by omega) (decodeElements_nil _) read rest
    · exact bracket_extend members (by omega) (decodeMembers_nil _) read rest

/-- All three functions, by the room they have. -/
theorem decode_extend (fuel : ℕ) :
    ExtendsAt decodeValue fuel ∧ ExtendsAt decodeElements fuel ∧ ExtendsAt decodeMembers fuel := by
  induction fuel with
  | zero =>
    refine ⟨fun ts d left read => ?_, fun ts d left read => ?_, fun ts d left read => ?_⟩
    · simp [decodeValue] at read
    · simp [decodeElements] at read
    · simp [decodeMembers] at read
  | succ fuel ih =>
    obtain ⟨values, elements, members⟩ := ih
    exact ⟨decodeValue_extend elements members, decodeElements_extend values elements,
      decodeMembers_extend values members⟩

end Extend

/-! ## Texts of values -/

/-- The bytes are a JSON text, and say this. -/
structure Denotes (text : List UInt8) (d : Datum) : Prop where
  valid : Text .json .value text
  decodes : decode text = some d

/-- The tokens of a text that says something, in front of others. -/
theorem Denotes.exists_tokens {text : List UInt8} {d : Datum} (denotes : Denotes text d) :
    ∃ found, Splits text found ∧
      ∀ fuel ≥ 2 * (found.filter Token.significant).length + 1, ∀ rest,
        decodeValue fuel (found.filter Token.significant ++ rest) = some (d, rest) := by
  obtain ⟨found, of⟩ := denotes.valid.exists_tokensOf
  have whole : tokens text = found := by simpa [tokens, tokensFrom] using of.splits [] ends_nil
  refine ⟨found, of.splits, fun fuel room rest => ?_⟩
  have decodes := denotes.decodes
  rw [decode, significantTokens, whole] at decodes
  split at decodes
  next datum read =>
    obtain rfl := Option.some.inj decodes
    exact (decode_extend _).1 _ _ _ read fuel room rest
  next => exact absurd decodes (by simp)

/-- A text whose tokens are a value says it. -/
theorem denotes_of_splits {text : List UInt8} {d : Datum} {found : List Token}
    (valid : Text .json .value text) (splits : Splits text found)
    (read : decodeValue (2 * (found.filter Token.significant).length + 1)
      (found.filter Token.significant) = some (d, [])) : Denotes text d := by
  have whole : tokens text = found := by simpa [tokens, tokensFrom] using splits [] ends_nil
  refine ⟨valid, ?_⟩
  rw [decode, significantTokens, whole, read]

theorem denotes_string {body bytes : List UInt8} (string : StringBody body)
    (decoded : decodeBody body = some bytes) : Denotes (quoted body) (.string bytes) := by
  have of : TokensOf Lexis.json .value (quoted body) [.string body] := tokensOf_string string
  have read : decodeValue 3 [.string body] = some (.string bytes, []) := by
    rw [decodeValue, decoded]
    rfl
  exact denotes_of_splits (.string string) of.splits read

theorem denotes_word {word : List UInt8} {d : Datum} (isWord : IsValueWord word)
    (decoded : decodeWord word = some d) : Denotes word d := by
  have of : TokensOf Lexis.json .value word [.word word] := tokensOf_word isWord
  have read : decodeValue 3 [.word word] = some (d, []) := by
    rw [decodeValue, decoded]
    rfl
  exact denotes_of_splits (.word isWord) of.splits read

/-! ## Objects -/

/-- A member to be written: the inside of its name, the text of its value, and what they
say. -/
structure Member where
  body : List UInt8
  text : List UInt8
  name : List UInt8
  datum : Datum

/-- The member says what it is to say. -/
structure Member.Sound (m : Member) : Prop where
  string : StringBody m.body
  named : decodeBody m.body = some m.name
  denotes : Denotes m.text m.datum

def Member.said (m : Member) : List UInt8 × Datum := (m.name, m.datum)

/-- `"name":value`. -/
def Member.written (m : Member) : List UInt8 := quoted m.body ++ byte ':' :: m.text

/-- The members with commas between them. -/
def joinMembers (first : Member) : List Member → List UInt8
  | [] => first.written
  | next :: rest => first.written ++ byte ',' :: joinMembers next rest

/-- The object of the members. -/
def objectText (first : Member) (rest : List Member) : List UInt8 :=
  byte '{' :: (joinMembers first rest ++ [byte '}'])

theorem filter_significant_mark {b : UInt8} (visible : ¬ IsWhitespace b) (rest : List Token) :
    (Token.mark b :: rest).filter Token.significant =
      .mark b :: rest.filter Token.significant :=
  List.filter_cons_of_pos (by simp [Token.significant, visible])

/-- One member: its text, its tokens, and how they are decoded. -/
theorem Member.Sound.exists_tokens {m : Member} (sound : m.Sound) :
    Text .json (.entry .curly) m.written ∧ ∃ found, Splits m.written found ∧
      ∀ fuel ≥ 2 * (found.filter Token.significant).length, ∀ rest : List Token,
        decodeMembers fuel (found.filter Token.significant ++ rest) =
          match behindMark (byte '}') rest with
          | some more => some ([m.said], more)
          | none => (behindMark (byte ',') rest).bind fun more =>
              (decodeMembers (fuel - 1) more).map fun later => (m.said :: later.1, later.2) := by
  obtain ⟨found, splits, decodes⟩ := sound.denotes.exists_tokens
  have noGap : Lexis.json.Gap [] := fun _ member => nomatch member
  constructor
  · have element : Text .json (.entry .square) ([] ++ (m.text ++ [])) :=
      .element noGap sound.denotes.valid noGap
    have entry := Text.member noGap sound.string noGap element
    simpa [Member.written] using entry
  · refine ⟨.string m.body :: .mark (byte ':') :: found,
      .quoted sound.string.closed (splits.mark (by decide) (by decide)), fun fuel room rest => ?_⟩
    have tokens : (Token.string m.body :: .mark (byte ':') :: found).filter Token.significant =
        .string m.body :: .mark (byte ':') :: found.filter Token.significant := by
      rw [List.filter_cons_of_pos rfl, filter_significant_mark (by decide)]
    rw [tokens] at room ⊢
    simp only [List.length_cons] at room
    obtain ⟨fuel, rfl⟩ := Nat.exists_eq_add_of_le' (show 1 ≤ fuel by omega)
    rw [List.cons_append, List.cons_append, decodeMembers, sound.named, Option.bind_some,
      behindMark_self, Option.bind_some, decodes fuel (by omega) rest, Option.bind_some]
    rfl

/-- All members, up to the closing brace. -/
theorem exists_tokens_joinMembers {first : Member} {rest : List Member} (sound : first.Sound)
    (sounds : ∀ m ∈ rest, m.Sound) :
    Text .json (.entries .curly) (joinMembers first rest) ∧
      ∃ found, Splits (joinMembers first rest) found ∧
        ∀ fuel ≥ 2 * (found.filter Token.significant).length, ∀ behind,
          decodeMembers fuel (found.filter Token.significant ++ .mark (byte '}') :: behind) =
            some ((first :: rest).map Member.said, behind) := by
  obtain ⟨entry, found, splits, decodes⟩ := sound.exists_tokens
  induction rest generalizing first found with
  | nil =>
    refine ⟨.last entry, found, splits, fun fuel room behind => ?_⟩
    rw [decodes fuel room, behindMark_self]
    rfl
  | cons next rest ih =>
    obtain ⟨nextSound, sounds⟩ := List.forall_mem_cons.mp sounds
    obtain ⟨nextEntry, nextFound, nextSplits, nextDecodes⟩ := nextSound.exists_tokens
    obtain ⟨entries, others, otherSplits, otherDecodes⟩ :=
      ih nextSound sounds nextEntry nextFound nextSplits nextDecodes
    refine ⟨.more entry entries, found ++ .mark (byte ',') :: others,
      splits.append (otherSplits.mark (by decide) (by decide)) fun _ _ => ends_cons (by decide) _,
      fun fuel room behind => ?_⟩
    have comma : behindMark (byte '}') (Token.mark (byte ',') ::
        (others.filter Token.significant ++ .mark (byte '}') :: behind)) = none := rfl
    rw [List.filter_append, filter_significant_mark (by decide), List.length_append,
      List.length_cons] at room
    rw [List.filter_append, filter_significant_mark (by decide), List.append_assoc,
      decodes fuel (by omega), List.cons_append, comma, behindMark_self]
    dsimp only
    rw [Option.bind_some, otherDecodes (fuel - 1) (by omega) behind]
    rfl

/-- Members begin with a name. -/
theorem behindMark_of_decodeMembers {fuel : ℕ} {ts left : List Token}
    {members : List (List UInt8 × Datum)} (read : decodeMembers fuel ts = some (members, left))
    (b : UInt8) : behindMark b ts = none := by
  match ts with
  | .string body :: rest => rfl
  | [] => exact nomatch (decodeMembers_nil fuel).symm.trans read
  | .word _ :: _ => cases fuel <;> simp [decodeMembers] at read
  | .mark _ :: _ => cases fuel <;> simp [decodeMembers] at read

/-- **The text put together from sound members is the object of what they say.** -/
theorem denotes_objectText {first : Member} {rest : List Member} (sound : first.Sound)
    (sounds : ∀ m ∈ rest, m.Sound) :
    Denotes (objectText first rest) (.object ((first :: rest).map Member.said)) := by
  obtain ⟨entries, found, splits, decodes⟩ := exists_tokens_joinMembers sound sounds
  have closing : Splits [byte '}'] [.mark (byte '}')] := Bracket.splits_closing .curly
  have inner : Splits (joinMembers first rest ++ [byte '}']) (found ++ [.mark (byte '}')]) :=
    splits.append closing fun rest _ => Bracket.ends_closing .curly rest
  have valid : Text .json .value (Bracket.curly.opening ::
      (joinMembers first rest ++ [Bracket.curly.closing])) := .filled entries
  have tokens : (Token.mark (byte '{') :: (found ++ [.mark (byte '}')])).filter Token.significant =
      .mark (byte '{') :: (found.filter Token.significant ++ [.mark (byte '}')]) := by
    rw [filter_significant_mark (by decide), List.filter_append,
      filter_significant_mark (by decide)]
    rfl
  refine denotes_of_splits valid (inner.mark (by decide) (by decide)) ?_
  generalize room : (List.filter Token.significant _).length = n
  rw [tokens] at room ⊢
  have members := decodes (2 * n) (by simp at room; omega) []
  rw [decodeValue, if_neg (by decide), if_pos rfl, behindMark_of_decodeMembers members, members]
  rfl

theorem objectText_isObject {first : Member} {rest : List Member} (sound : first.Sound)
    (sounds : ∀ m ∈ rest, m.Sound) : IsObject .json (objectText first rest) :=
  ⟨(denotes_objectText sound sounds).valid, rfl⟩

end Json
